/-
  TradingPlatform.Frontend.UsePreviewJob

  `usePreviewJob` of `app/dashboard/use-preview-job.ts` as a labelled step
  relation, with the part of the JavaScript runtime it is written against: the
  awaited calls, the armed timers and the aborted signals.

  A continuation captures the variables of the closure it belongs to, so an
  awaited call or an armed timer is a `Pending` value.  Its `submission` is the
  one component that the source does not have: the ordinal of the `submit` call
  whose body or continuation created it.

  - `Hook.submit`, `reset`, `unmount`, `poll` and the four continuations are the
    functions of the source, up to their next `await`.
  - `Hook.Step` fires them in any order: an awaited call may settle at any later
    time, with any response or error, whether or not its signal was aborted.
-/

import TradingPlatform.Core.Json
import TradingPlatform.Lib.Trace

namespace TradingPlatform
namespace Frontend

-- ============================================================================
-- The types of `lib/strategies/types.ts`
-- ============================================================================

/-- A parsed strategy of the API; the documents in it are not looked into. -/
structure ParsedStrategy where
  specification : Json
  defaultsApplied : Json
  assumptions : Json
  requiresConfirmation : Bool
  originalText : String
  interpretation : String
deriving Repr

/-- A preview of the API. -/
structure StrategyPreview where
  parsedStrategy : ParsedStrategy
  backtest : Json
deriving Repr

/-- `PreviewJobStatus` of `lib/strategies/types.ts`. -/
inductive PreviewJobStatus where
  | queued
  | running
  | completed
  | failed
deriving DecidableEq, Repr

/-- `PreviewJobStage` of `lib/strategies/types.ts`. -/
inductive PreviewJobStage where
  | queued
  | parsing
  | validating
  | compiling
  | loadingData
  | backtesting
  | generatingResults
  | completed
  | failed
deriving DecidableEq, Repr

/-- The id of a preview job, as text. -/
abbrev JobId := String

/-- `PreviewJob` of `lib/strategies/types.ts`. -/
structure PreviewJob where
  id : JobId
  status : PreviewJobStatus
  stage : PreviewJobStage
  progress : Nat
  createdAt : String
  startedAt : Option String
  completedAt : Option String
  error : Option String
  previewResult : Option StrategyPreview
deriving Repr

/-- A job whose response ends the polling. -/
def PreviewJob.Terminal (job : PreviewJob) : Prop :=
  job.status = .completed ∨ job.status = .failed

instance (job : PreviewJob) : Decidable job.Terminal :=
  inferInstanceAs (Decidable (_ ∨ _))

/-- What an awaited request can reject with. -/
inductive RequestError where
  | abortError
  | strategyApiError (message : String)
  | other
deriving Repr

/-- The message that is shown for an error; an aborted request has none. -/
def getErrorMessage : RequestError → String
  | .abortError => ""
  | .strategyApiError message => message
  | .other => "Unable to check the preview job. Please try again."

/-- `createdAt` is the time of the call. -/
def queuedJob (jobId : JobId) (createdAt : String) : PreviewJob where
  id := jobId
  status := .queued
  stage := .queued
  progress := 5
  createdAt := createdAt
  startedAt := none
  completedAt := none
  error := none
  previewResult := none

-- ============================================================================
-- The hook
-- ============================================================================

/-- A closure that waits for the runtime: an awaited call, or the callback of a timer. -/
structure Pending (α : Type) where
  /-- The submitted text, or the job id. -/
  argument : α
  generation : Nat
  /-- The abort controller of the call, or the id of the timer. -/
  handle : Nat
  submission : Nat
deriving DecidableEq, Repr

/-- The state variables that the hook returns to be shown. -/
structure Shown where
  job : Option PreviewJob
  preview : Option StrategyPreview
  error : Option String
deriving Repr

/-- Nothing is shown. -/
def Shown.empty : Shown := ⟨none, none, none⟩

/-- The refs and the state of the hook, and the closures that wait for the runtime. -/
structure Hook where
  generationRef : Nat
  timerRef : Option Nat
  requestRef : Option Nat
  shown : Shown
  isSubmitting : Bool
  /-- The awaited `enqueueStrategyPreview` calls. -/
  enqueues : List (Pending String)
  /-- The awaited `getPreviewJob` calls. -/
  polls : List (Pending JobId)
  /-- The armed timers. -/
  timers : List (Pending JobId)
  /-- The controllers whose signal was aborted. -/
  aborted : List Nat
  nextHandle : Nat
  /-- The number of `submit` calls so far. -/
  submissions : Nat
  /-- Every `getPreviewJob` call so far, the latest first. -/
  startedPolls : List (Pending JobId)
deriving Repr

namespace Hook

/-- `useState` and `useRef` on the first render. -/
def initial : Hook where
  generationRef := 0
  timerRef := none
  requestRef := none
  shown := .empty
  isSubmitting := false
  enqueues := []
  polls := []
  timers := []
  aborted := []
  nextHandle := 0
  submissions := 0
  startedPolls := []

/-- The request under way is aborted, and its closures become stale. -/
def stopCurrentRequest (h : Hook) : Hook :=
  { h with
    generationRef := h.generationRef + 1
    -- `clearTimeout` of the timer that `timerRef` names
    timers := h.timers.filter fun timer => h.timerRef ≠ some timer.handle
    timerRef := none
    aborted := h.requestRef.toList ++ h.aborted
    requestRef := none }

/-- Back to the first render, under a new generation. -/
def reset (h : Hook) : Hook :=
  { h.stopCurrentRequest with shown := .empty, isSubmitting := false }

/-- The cleanup of the last effect. -/
def unmount (h : Hook) : Hook := h.stopCurrentRequest

/-- `poll` up to its `await`. -/
def poll (jobId : JobId) (generation submission : Nat) (h : Hook) : Hook :=
  if generation ≠ h.generationRef then
    h
  else
    let call : Pending JobId := ⟨jobId, generation, h.nextHandle, submission⟩
    { h with
      requestRef := some h.nextHandle
      nextHandle := h.nextHandle + 1
      polls := call :: h.polls
      startedPolls := call :: h.startedPolls }

/-- The end of `poll`: the next poll of the job, a `POLL_INTERVAL_MS` later. -/
def schedule (call : Pending JobId) (h : Hook) : Hook :=
  { h with
    requestRef := none
    timerRef := some h.nextHandle
    nextHandle := h.nextHandle + 1
    timers := ⟨call.argument, call.generation, h.nextHandle, call.submission⟩ :: h.timers }

/-- `poll` after its `await` returned. -/
def pollResolved (call : Pending JobId) (nextJob : PreviewJob) (h : Hook) : Hook :=
  let h := { h with polls := h.polls.erase call }
  if call.generation ≠ h.generationRef then
    h
  else
    let h := { h with shown := { h.shown with job := some nextJob, error := none } }
    match nextJob.status with
    | .completed =>
        { h with
          shown := { h.shown with preview := nextJob.previewResult }
          requestRef := none }
    | .failed =>
        { h with
          shown := { h.shown with
            error := some (nextJob.error.getD "Unable to complete the strategy preview.") }
          requestRef := none }
    | .queued | .running => h.schedule call

/-- `poll` after its `await` threw. -/
def pollRejected (call : Pending JobId) (pollError : RequestError) (h : Hook) : Hook :=
  let h := { h with polls := h.polls.erase call }
  if call.generation ≠ h.generationRef ∨ call.handle ∈ h.aborted then
    h
  else
    { h with shown := { h.shown with error := some (getErrorMessage pollError) } }.schedule call

/-- The callback of a timer. -/
def timerFired (timer : Pending JobId) (h : Hook) : Hook :=
  poll timer.argument timer.generation timer.submission
    { h with timers := h.timers.erase timer, timerRef := none }

/-- `submit` up to its `await`. -/
def submit (strategyText : String) (h : Hook) : Hook :=
  let h := h.stopCurrentRequest
  { h with
    requestRef := some h.nextHandle
    nextHandle := h.nextHandle + 1
    shown := .empty
    isSubmitting := true
    submissions := h.submissions + 1
    enqueues :=
      ⟨strategyText, h.generationRef, h.nextHandle, h.submissions + 1⟩ :: h.enqueues }

/-- `submit` after its `await` returned a job id. -/
def enqueueResolved (call : Pending String) (jobId : JobId) (createdAt : String) (h : Hook) :
    Hook :=
  let h := { h with enqueues := h.enqueues.erase call }
  if call.generation ≠ h.generationRef then
    h
  else
    poll jobId call.generation call.submission
      { h with
        shown := { h.shown with job := some (queuedJob jobId createdAt) }
        isSubmitting := false
        requestRef := none }

/-- `submit` after its `await` threw. -/
def enqueueRejected (call : Pending String) (submissionError : RequestError) (h : Hook) : Hook :=
  let h := { h with enqueues := h.enqueues.erase call }
  if call.generation ≠ h.generationRef ∨ call.handle ∈ h.aborted then
    h
  else
    { h with
      shown := { h.shown with error := some (getErrorMessage submissionError) }
      isSubmitting := false
      requestRef := none }

end Hook

-- ============================================================================
-- Steps
-- ============================================================================

/-- A call of the hook, or the continuation of a closure. -/
inductive HookEvent where
  | submit (strategyText : String)
  | reset
  | unmount
  | timerFired (timer : Pending JobId)
  | enqueueResolved (call : Pending String) (jobId : JobId) (createdAt : String)
  | enqueueRejected (call : Pending String) (error : RequestError)
  | pollResolved (call : Pending JobId) (nextJob : PreviewJob)
  | pollRejected (call : Pending JobId) (error : RequestError)

/-- An event runs its function; a continuation runs once, for a call that is awaited or a
    timer that is armed. -/
inductive Hook.Step : Hook → HookEvent → Hook → Prop
  | submit {h : Hook} (strategyText : String) :
      Step h (.submit strategyText) (h.submit strategyText)
  | reset {h : Hook} : Step h .reset h.reset
  | unmount {h : Hook} : Step h .unmount h.unmount
  | timerFired {h : Hook} {timer : Pending JobId} (harmed : timer ∈ h.timers) :
      Step h (.timerFired timer) (h.timerFired timer)
  | enqueueResolved {h : Hook} {call : Pending String} (hawaited : call ∈ h.enqueues)
      (jobId : JobId) (createdAt : String) :
      Step h (.enqueueResolved call jobId createdAt) (h.enqueueResolved call jobId createdAt)
  | enqueueRejected {h : Hook} {call : Pending String} (hawaited : call ∈ h.enqueues)
      (error : RequestError) : Step h (.enqueueRejected call error) (h.enqueueRejected call error)
  | pollResolved {h : Hook} {call : Pending JobId} (hawaited : call ∈ h.polls)
      (nextJob : PreviewJob) : Step h (.pollResolved call nextJob) (h.pollResolved call nextJob)
  | pollRejected {h : Hook} {call : Pending JobId} (hawaited : call ∈ h.polls)
      (error : RequestError) : Step h (.pollRejected call error) (h.pollRejected call error)

/-- A run of the hook, with its events, the latest first. -/
abbrev Hook.Run : List HookEvent → Hook → Prop := Trace Hook.Step Hook.initial

end Frontend
end TradingPlatform
