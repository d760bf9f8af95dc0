/-
  TradingPlatform.Queue.BoundedScan

  The bound of `active_preview_job_ids`, on unchanging collections.

  Every read asks for one id more than fits, the queue by a length and a
  registry by an inclusive end, so what was cut off is noticed: the ids read
  before a registry always fit (`scannedBefore_eq_ok`), and the scan is complete
  or raises.
-/

import TradingPlatform.Queue.PreviewQueue

namespace TradingPlatform
namespace Queue

open Jobs

/-- A stored RQ job: its function, and the texts of its arguments. -/
structure StoredJob where
  funcName : String
  args : List String
deriving DecidableEq, Repr

/-- `UUID(str(raw_args[0]))`, if there is an argument and it is the text of a UUID. -/
def StoredJob.read (uuid : String → Option JobId) (job : StoredJob) : RqJob :=
  ⟨job.funcName, job.args.head?.bind uuid⟩

/-- `rq_job_ids` after the queue and the first registries of the loop. -/
def scannedBefore (scanLimit : Nat) (queue : List RqJobId) (registries : List (List RqJobId)) :
    Except PyError (List RqJobId) := do
  let rqJobIds ← queueWithin scanLimit (queue.take (scanLimit + 1))
  registries.foldlM (scanRegistry scanLimit) rqJobIds

theorem activePreviewJobIds_eq_scannedBefore (scanLimit : Nat)
    (queue started deferred scheduled : List RqJobId) (fetchJob : RqJobId → Option RqJob) :
    activePreviewJobIds scanLimit queue started deferred scheduled fetchJob =
      (scannedBefore scanLimit queue [started, deferred, scheduled]).map fun rqJobIds =>
        rqJobIds.dedup.filterMap (scannedPreviewId fetchJob) := by
  unfold activePreviewJobIds scannedBefore
  cases queueWithin scanLimit (queue.take (scanLimit + 1)) with
  | error error => rfl
  | ok first =>
      simp only [Python.ok_bind, List.foldlM_cons, List.foldlM_nil]
      cases scanRegistry scanLimit first started with
      | error error => rfl
      | ok second =>
          simp only [Python.ok_bind]
          cases scanRegistry scanLimit second deferred with
          | error error => rfl
          | ok third =>
              simp only [Python.ok_bind]
              cases scanRegistry scanLimit third scheduled <;> rfl

theorem queueWithin_iff {scanLimit : Nat} {queue scanned : List RqJobId} :
    queueWithin scanLimit (queue.take (scanLimit + 1)) = .ok scanned ↔
      scanned = queue ∧ queue.length ≤ scanLimit := by
  constructor
  · intro h
    obtain rfl := queueWithin_eq_ok h
    refine ⟨rfl, ?_⟩
    unfold queueWithin at h
    split at h
    · cases h
    · rename_i hfits
      rw [List.length_take] at hfits
      omega
  · rintro ⟨rfl, hfits⟩
    exact queueWithin_of_length_le hfits

/-- One registry: read whole within the bound, or the scan raises. -/
theorem scanRegistry_iff {scanLimit : Nat} {rqJobIds registry scanned : List RqJobId} :
    scanRegistry scanLimit rqJobIds registry = .ok scanned ↔
      scanned = rqJobIds ++ registry ∧ (rqJobIds ++ registry).length ≤ scanLimit := by
  constructor
  · intro h
    obtain rfl := scanRegistry_eq_ok h
    refine ⟨rfl, ?_⟩
    unfold scanRegistry extendWithin at h
    split at h
    · cases h
    · split at h
      · cases h
      · rename_i hwithin hfits
        rw [List.length_append, List.length_take] at hfits
        rw [List.length_append]
        omega
  · rintro ⟨rfl, hfits⟩
    exact scanRegistry_of_length_le hfits

theorem foldlM_scanRegistry_iff {scanLimit : Nat} {registries : List (List RqJobId)} :
    ∀ {rqJobIds scanned : List RqJobId}, rqJobIds.length ≤ scanLimit →
      (registries.foldlM (scanRegistry scanLimit) rqJobIds = .ok scanned ↔
        scanned = rqJobIds ++ registries.flatten ∧ scanned.length ≤ scanLimit) := by
  induction registries with
  | nil =>
      intro rqJobIds scanned hfits
      rw [List.foldlM_nil, List.flatten_nil, List.append_nil]
      constructor
      · intro h
        cases h
        exact ⟨rfl, hfits⟩
      · rintro ⟨rfl, -⟩
        rfl
  | cons registry rest ih =>
      intro rqJobIds scanned hfits
      rw [List.foldlM_cons, List.flatten_cons, ← List.append_assoc]
      constructor
      · intro h
        obtain ⟨next, hnext, hrest⟩ := Python.bind_eq_ok h
        obtain ⟨rfl, hlength⟩ := scanRegistry_iff.mp hnext
        exact (ih hlength).mp hrest
      · rintro ⟨rfl, hlength⟩
        have hnext : (rqJobIds ++ registry).length ≤ scanLimit := by
          rw [List.length_append] at hlength
          omega
        rw [scanRegistry_iff.mpr ⟨rfl, hnext⟩, Python.ok_bind]
        exact (ih hnext).mpr ⟨rfl, hlength⟩

/-- What has been read is everything there was, and fits. -/
theorem scannedBefore_eq_ok {scanLimit : Nat} {queue scanned : List RqJobId}
    {registries : List (List RqJobId)} :
    scannedBefore scanLimit queue registries = .ok scanned ↔
      scanned = queue ++ registries.flatten ∧ scanned.length ≤ scanLimit := by
  constructor
  · intro h
    obtain ⟨first, hfirst, hrest⟩ := Python.bind_eq_ok h
    obtain ⟨rfl, hfits⟩ := queueWithin_iff.mp hfirst
    exact (foldlM_scanRegistry_iff hfits).mp hrest
  · rintro ⟨rfl, hlength⟩
    have hqueue : queue.length ≤ scanLimit := by
      rw [List.length_append] at hlength
      omega
    rw [scannedBefore, queueWithin_iff.mpr ⟨rfl, hqueue⟩, Python.ok_bind]
    exact (foldlM_scanRegistry_iff hqueue).mpr ⟨rfl, hlength⟩

/-- The preview a job stands for: a `process_preview_job` whose first argument is a UUID. -/
theorem scannedPreviewId_read {uuid : String → Option JobId}
    {fetchJob : RqJobId → Option StoredJob} {rqJobId : RqJobId} {preview : JobId} :
    scannedPreviewId (fun id => (fetchJob id).map (StoredJob.read uuid)) rqJobId = some preview ↔
      ∃ job first rest, fetchJob rqJobId = some job ∧ job.funcName = processPreviewJobName ∧
        job.args = first :: rest ∧ uuid first = some preview := by
  unfold scannedPreviewId
  dsimp only
  cases fetchJob rqJobId with
  | none => simp
  | some job =>
      obtain ⟨funcName, args⟩ := job
      by_cases hname : funcName = processPreviewJobName
      · cases args <;> simp [StoredJob.read, hname]
      · simp [StoredJob.read, hname]

/-- The bounded scan is complete or refuses: it raises exactly when the four collections hold more
    ids than the limit, it otherwise returns the previews of all their jobs, and the remainder
    never gets negative. -/
theorem activePreviewJobIds_completeOrRefuses (scanLimit : Nat)
    (queue started deferred scheduled : List RqJobId) (uuid : String → Option JobId)
    (fetchJob : RqJobId → Option StoredJob) :
    ((∃ error, activePreviewJobIds scanLimit queue started deferred scheduled
        (fun id => (fetchJob id).map (StoredJob.read uuid)) = .error error) ↔
      scanLimit < queue.length + started.length + deferred.length + scheduled.length) ∧
    (∀ ids, activePreviewJobIds scanLimit queue started deferred scheduled
        (fun id => (fetchJob id).map (StoredJob.read uuid)) = .ok ids →
      ∀ preview, preview ∈ ids ↔
        ∃ id ∈ queue ++ started ++ deferred ++ scheduled, ∃ job first rest,
          fetchJob id = some job ∧ job.funcName = processPreviewJobName ∧
          job.args = first :: rest ∧ uuid first = some preview) ∧
    ∀ read unread rqJobIds, [started, deferred, scheduled] = read ++ unread →
      scannedBefore scanLimit queue read = .ok rqJobIds → ¬ scanLimit < rqJobIds.length := by
  refine ⟨⟨?_, ?_⟩, fun ids hids preview => ?_, fun read unread rqJobIds _ hread => ?_⟩
  · rintro ⟨error, herror⟩
    by_contra hfits
    rw [activePreviewJobIds_of_length_le _ (by simp only [List.length_append]; omega)] at herror
    cases herror
  · intro hexceeds
    rw [activePreviewJobIds_eq_scannedBefore]
    cases hscanned : scannedBefore scanLimit queue [started, deferred, scheduled] with
    | error error => exact ⟨error, rfl⟩
    | ok scanned =>
        obtain ⟨rfl, hlength⟩ := scannedBefore_eq_ok.mp hscanned
        simp only [List.flatten_cons, List.flatten_nil, List.length_append, List.length_nil]
          at hlength
        omega
  · rw [activePreviewJobIds_eq_ok hids, List.mem_filterMap]
    simp only [List.mem_dedup, scannedPreviewId_read]
  · exact not_lt.mpr (scannedBefore_eq_ok.mp hread).2

/-- Three jobs with a limit of three: one of another function, one without arguments. -/
example : activePreviewJobIds 3 [0] [1] [] [2]
    (fun id => ([⟨processPreviewJobName, ["7"]⟩, ⟨"other", ["7"]⟩,
      ⟨processPreviewJobName, []⟩] : List StoredJob)[id]?.map
        (StoredJob.read fun text => if text = "7" then some 7 else none)) = .ok [7] := by
  decide +kernel

end Queue
end TradingPlatform
