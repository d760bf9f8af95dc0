/-
  TradingPlatform.Queue.PreviewQueue

  `RqPreviewQueue` of `app/queue/preview_queue.py`: the retries given to a new
  message, and the bounded scan of the four collections a live message can be in.
-/

import Mathlib.Data.List.Dedup
import TradingPlatform.Jobs.JobStore

namespace TradingPlatform
namespace Queue

open Jobs

/-- The `retries_left` of a new message: `Retry(max=retries)` if that is positive, else no
    `Retry` at all. -/
def enqueueRetries (maxRetries : Int) (retryCount : Option Int) : Option Nat :=
  if retryCount.getD maxRetries > 0 then some (retryCount.getD maxRetries).toNat else none

/-- `(retries_left or 0) > 0` -/
def willRetry (retriesLeft : Option Nat) : Bool := retriesLeft.getD 0 > 0

/-- `retries_left is not None and retries_left < preview_job_max_retries` -/
def allowRunningRetry (maxRetries : Nat) (retriesLeft : Option Nat) : Bool :=
  retriesLeft.any (· < maxRetries)

theorem enqueueRetries_getD (maxRetries : Int) (retryCount : Option Int)
    (h : 0 ≤ retryCount.getD maxRetries) :
    ((enqueueRetries maxRetries retryCount).getD 0 : Int) = retryCount.getD maxRetries := by
  unfold enqueueRetries
  split
  · exact Int.toNat_of_nonneg h
  · rw [Option.getD_none]
    omega

-- ============================================================================
-- The active scan
-- ============================================================================

/-- An RQ job id. -/
abbrev RqJobId := Nat

/-- An RQ job as the scan reads it: its function, and the preview id parsed from its first
    argument, if that is a UUID. -/
structure RqJob where
  funcName : String
  previewId : Option JobId
deriving DecidableEq, Repr

/-- The function of a preview job's messages. -/
def processPreviewJobName : String := "app.workers.preview_worker.process_preview_job"

/-- The check after `rq_job_ids.extend`. -/
def extendWithin (scanLimit : Nat) (rqJobIds : List RqJobId) : Except PyError (List RqJobId) :=
  if rqJobIds.length > scanLimit then
    .error (.runtimeError "Preview registries exceed the reconciliation scan limit.")
  else
    .ok rqJobIds

/-- The check after the queue was read. -/
def queueWithin (scanLimit : Nat) (rqJobIds : List RqJobId) : Except PyError (List RqJobId) :=
  if rqJobIds.length > scanLimit then
    .error (.runtimeError "Preview queue exceeds the bounded reconciliation scan limit.")
  else
    .ok rqJobIds

/-- One iteration of `for registry in registries`: `zrange` includes its end index. -/
def scanRegistry (scanLimit : Nat) (rqJobIds registry : List RqJobId) :
    Except PyError (List RqJobId) :=
  if scanLimit < rqJobIds.length then
    .error (.runtimeError "Preview registries exceed the reconciliation scan limit.")
  else
    extendWithin scanLimit (rqJobIds ++ registry.take (scanLimit - rqJobIds.length + 1))

/-- The preview a scanned id stands for, if any. -/
def scannedPreviewId (fetchJob : RqJobId → Option RqJob) (rqJobId : RqJobId) : Option JobId :=
  (fetchJob rqJobId).bind fun job =>
    if job.funcName = processPreviewJobName then job.previewId else none

/-- `active_preview_job_ids`, given what its four reads returned in full. -/
def activePreviewJobIds (scanLimit : Nat) (queue started deferred scheduled : List RqJobId)
    (fetchJob : RqJobId → Option RqJob) : Except PyError (List JobId) := do
  let rqJobIds ← queueWithin scanLimit (queue.take (scanLimit + 1))
  let rqJobIds ← scanRegistry scanLimit rqJobIds started
  let rqJobIds ← scanRegistry scanLimit rqJobIds deferred
  let rqJobIds ← scanRegistry scanLimit rqJobIds scheduled
  return rqJobIds.dedup.filterMap (scannedPreviewId fetchJob)

/-- A registry that was not cut off is scanned whole. -/
theorem scanRegistry_eq_ok {scanLimit : Nat} {rqJobIds registry scanned : List RqJobId}
    (h : scanRegistry scanLimit rqJobIds registry = .ok scanned) :
    scanned = rqJobIds ++ registry := by
  unfold scanRegistry extendWithin at h
  split at h
  · cases h
  · split at h
    · cases h
    · rename_i hwithin hfits
      cases h
      rw [List.length_append, List.length_take] at hfits
      rw [List.take_of_length_le (by omega)]

theorem queueWithin_eq_ok {scanLimit : Nat} {queue scanned : List RqJobId}
    (h : queueWithin scanLimit (queue.take (scanLimit + 1)) = .ok scanned) :
    scanned = queue := by
  unfold queueWithin at h
  split at h
  · cases h
  · rename_i hfits
    cases h
    rw [List.length_take] at hfits
    exact List.take_of_length_le (by omega)

/-- A scan that does not raise returns the previews of everything it read. -/
theorem activePreviewJobIds_eq_ok {scanLimit : Nat}
    {queue started deferred scheduled : List RqJobId} {fetchJob : RqJobId → Option RqJob}
    {ids : List JobId}
    (h : activePreviewJobIds scanLimit queue started deferred scheduled fetchJob = .ok ids) :
    ids = (queue ++ started ++ deferred ++ scheduled).dedup.filterMap
      (scannedPreviewId fetchJob) := by
  obtain ⟨first, hfirst, h⟩ := Python.bind_eq_ok h
  obtain ⟨second, hsecond, h⟩ := Python.bind_eq_ok h
  obtain ⟨third, hthird, h⟩ := Python.bind_eq_ok h
  obtain ⟨fourth, hfourth, h⟩ := Python.bind_eq_ok h
  rw [← Except.ok.inj h, scanRegistry_eq_ok hfourth, scanRegistry_eq_ok hthird,
    scanRegistry_eq_ok hsecond, queueWithin_eq_ok hfirst]

/-- A registry that fits in the limit is scanned whole. -/
theorem scanRegistry_of_length_le {scanLimit : Nat} {rqJobIds registry : List RqJobId}
    (h : (rqJobIds ++ registry).length ≤ scanLimit) :
    scanRegistry scanLimit rqJobIds registry = .ok (rqJobIds ++ registry) := by
  have hlength := h
  rw [List.length_append] at hlength
  rw [scanRegistry, if_neg (by omega), List.take_of_length_le (by omega), extendWithin,
    if_neg (by omega)]

theorem queueWithin_of_length_le {scanLimit : Nat} {queue : List RqJobId}
    (h : queue.length ≤ scanLimit) :
    queueWithin scanLimit (queue.take (scanLimit + 1)) = .ok queue := by
  rw [List.take_of_length_le (by omega), queueWithin, if_neg (by omega)]

/-- A scan of collections that fit in the limit together does not raise. -/
theorem activePreviewJobIds_of_length_le {scanLimit : Nat}
    {queue started deferred scheduled : List RqJobId} (fetchJob : RqJobId → Option RqJob)
    (h : (queue ++ started ++ deferred ++ scheduled).length ≤ scanLimit) :
    activePreviewJobIds scanLimit queue started deferred scheduled fetchJob =
      .ok ((queue ++ started ++ deferred ++ scheduled).dedup.filterMap
        (scannedPreviewId fetchJob)) := by
  have hlength := h
  simp only [List.length_append] at hlength
  rw [activePreviewJobIds, queueWithin_of_length_le (by omega), Python.ok_bind,
    scanRegistry_of_length_le (by simp only [List.length_append]; omega), Python.ok_bind,
    scanRegistry_of_length_le (by simp only [List.length_append]; omega), Python.ok_bind,
    scanRegistry_of_length_le (by simp only [List.length_append]; omega), Python.ok_bind]
  rfl

end Queue
end TradingPlatform
