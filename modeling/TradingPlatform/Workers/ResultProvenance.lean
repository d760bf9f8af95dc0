/-
  TradingPlatform.Workers.ResultProvenance

  Where the result and the error message of a stored preview come from.

  Every version of a row that an execution can see or write has the columns of
  the row it began with, but for a result and a message that are `Writable`
  (`Version`).  A flush takes each column from one of two versions, so no commit
  that is refused, retried or repeated can mix in anything else.

  Over the whole life of a row, with any number of executions and any provider,
  the result is a preview of a parse of the row's own text, and no message is
  the provider's (`lifetime_provenance`).
-/

import TradingPlatform.Jobs.System
import TradingPlatform.Services.OpenAIStrategyParser
import TradingPlatform.Workers.DurableOutcome

namespace TradingPlatform
namespace Workers

open Jobs Services Schemas Backtesting Action

-- ============================================================================
-- Versions of a row
-- ============================================================================

/-- What may be written to `preview_result` and to `error_message`. -/
structure Writable where
  result : Json → Prop
  message : String → Prop

/-- A result that was there before, or that may have been written. -/
def Writable.OfResult (writable : Writable) (before column : Option Json) : Prop :=
  column = before ∨ ∃ result, column = some result ∧ writable.result result

/-- The column is as before, empty, or a message that may be written. -/
def Writable.OfMessage (writable : Writable) (before column : Option String) : Prop :=
  column = before ∨ column = none ∨ ∃ message, column = some message ∧ writable.message message

/-- A version of a row. -/
structure Version (writable : Writable) (origin row : PreviewJob) : Prop where
  id : row.id = origin.id
  userId : row.userId = origin.userId
  strategyText : row.strategyText = origin.strategyText
  strategyName : row.strategyName = origin.strategyName
  createdAt : row.createdAt = origin.createdAt
  expiresAt : row.expiresAt = origin.expiresAt
  previewResult : writable.OfResult origin.previewResult row.previewResult
  errorMessage : writable.OfMessage origin.errorMessage row.errorMessage

section Version

variable {writable : Writable} {origin row : PreviewJob}

theorem Version.refl : Version writable row row :=
  ⟨rfl, rfl, rfl, rfl, rfl, rfl, .inl rfl, .inl rfl⟩

theorem Version.mono {wider : Writable} (h : Version writable origin row)
    (hresult : ∀ result, writable.result result → wider.result result)
    (hmessage : ∀ message, writable.message message → wider.message message) :
    Version wider origin row :=
  { h with
    previewResult := h.previewResult.imp_right fun hwritten =>
      hwritten.imp fun result => And.imp_right (hresult result)
    errorMessage := h.errorMessage.imp_right fun hother => hother.imp_right fun hwritten =>
      hwritten.imp fun message => And.imp_right (hmessage message) }

/-- A column comes from the object or from the stored row. -/
theorem flushColumn_holds {α : Type} [BEq α] {p : α → Prop} (loaded : α) {value stored : α}
    (hvalue : p value) (hstored : p stored) : p (flushColumn loaded value stored) := by
  unfold flushColumn
  split
  · exact hstored
  · exact hvalue

theorem Version.flush {value stored : PreviewJob} (loaded : PreviewJob)
    (hvalue : Version writable origin value) (hstored : Version writable origin stored) :
    Version writable origin (loaded.flush value stored) where
  id := flushColumn_holds (p := (· = _)) _ hvalue.id hstored.id
  userId := flushColumn_holds (p := (· = _)) _ hvalue.userId hstored.userId
  strategyText := flushColumn_holds (p := (· = _)) _ hvalue.strategyText hstored.strategyText
  strategyName := flushColumn_holds (p := (· = _)) _ hvalue.strategyName hstored.strategyName
  createdAt := flushColumn_holds (p := (· = _)) _ hvalue.createdAt hstored.createdAt
  expiresAt := flushColumn_holds (p := (· = _)) _ hvalue.expiresAt hstored.expiresAt
  previewResult := flushColumn_holds (p := writable.OfResult _) _ hvalue.previewResult
    hstored.previewResult
  errorMessage := flushColumn_holds (p := writable.OfMessage _) _ hvalue.errorMessage
    hstored.errorMessage

theorem Version.claimJob {allowRunningRetry : Bool} {now : Timestamp} {claimed : PreviewJob}
    (h : Version writable origin row)
    (hclaim : Jobs.claimJob allowRunningRetry now row = some claimed) :
    Version writable origin claimed := by
  unfold Jobs.claimJob at hclaim
  split at hclaim
  · obtain rfl := Option.some.inj hclaim
    exact { h with errorMessage := .inr (.inl rfl) }
  · cases hclaim

theorem Version.transition {finalError : String} (willRetry : Bool) (now : Timestamp)
    (h : Version writable origin row) (hmessage : writable.message finalError) :
    Version writable origin
      (Jobs.transitionJobAfterOperationalFailure willRetry finalError now row) := by
  unfold Jobs.transitionJobAfterOperationalFailure
  split
  · split
    · exact { h with errorMessage := .inr (.inl rfl) }
    · exact { h with errorMessage := .inr (.inr ⟨finalError, rfl, hmessage⟩) }
  · exact h

theorem Version.updateProgress (stage : JobStage) (progress : Nat)
    (h : Version writable origin row) :
    Version writable origin (Jobs.updateProgress row stage progress) := { h with }

theorem Version.completeJob {result : Json} (now : Timestamp) (h : Version writable origin row)
    (hresult : writable.result result) :
    Version writable origin (Jobs.completeJob row result now) :=
  { h with previewResult := .inr ⟨result, rfl, hresult⟩ }

theorem Version.failJob {error : String} (now : Timestamp) (h : Version writable origin row)
    (hmessage : writable.message error) : Version writable origin (Jobs.failJob row error now) :=
  { h with errorMessage := .inr (.inr ⟨error, rfl, hmessage⟩) }

end Version

-- ============================================================================
-- The session
-- ============================================================================

/-- Everything that an execution can write is a version of the row it began with. -/
structure Traced (writable : Writable) (origin : PreviewJob) (session : WorkerSession) : Prop where
  row : Version writable origin session.row
  updated : ∀ row, session.updated = some row → Version writable origin row
  job : ∀ job, session.job = some job → Version writable origin job.value

/-- The message that an exception leaves in the row. -/
def PreviewException.message : PreviewException → Option String
  | .strategyValidationError message | .strategyCompilationError message
  | .marketDataUnavailableError message => some message
  | _ => none

/-- The session when an exception is raised. -/
structure Attributed (writable : Writable) (origin : PreviewJob) (error : PreviewException)
    (session : WorkerSession) : Prop extends Traced writable origin session where
  message : ∀ message, error.message = some message → writable.message message

section Session

variable {writable : Writable} {origin : PreviewJob} {session : WorkerSession}

theorem Traced.attributed {error : PreviewException} (h : Traced writable origin session)
    (hnone : error.message = none) : Attributed writable origin error session :=
  { h with message := fun message hsome => by rw [hnone] at hsome; cases hsome }

theorem Traced.opened {row : PreviewJob} (h : Version writable origin row) :
    Traced writable origin (.opened row) where
  row := h
  updated _ hrow := by cases hrow
  job _ hjob := by cases hjob

theorem Traced.visible (h : Traced writable origin session) :
    Version writable origin session.visible := by
  unfold WorkerSession.visible
  cases hupdated : session.updated with
  | none => exact h.row
  | some row => exact h.updated row hupdated

theorem Traced.committed (h : Traced writable origin session) :
    Traced writable origin session.committed where
  row := by
    unfold WorkerSession.committed
    dsimp only
    cases hjob : session.job with
    | none => exact h.visible
    | some job =>
        rw [Option.elim_some, LoadedJob.flushTo]
        split
        · exact h.visible
        · exact (h.job job hjob).flush _ h.visible
  updated _ hrow := by cases hrow
  job job hjob := by
    obtain ⟨before, hbefore, rfl⟩ := Option.map_eq_some_iff.mp hjob
    exact h.job before hbefore

theorem Traced.refused (h : Traced writable origin session) (fault : Fault) (atFlush : Bool) :
    Traced writable origin (session.refused fault atFlush) where
  row := h.row
  updated := h.updated
  job job hjob := by
    cases atFlush with
    | false => exact h.job job hjob
    | true =>
        obtain ⟨before, hbefore, rfl⟩ := Option.map_eq_some_iff.mp hjob
        exact h.job before hbefore

theorem Traced.rolledBack (h : Traced writable origin session) :
    Traced writable origin session.rolledBack where
  row := h.row
  updated _ hrow := by cases hrow
  job job hjob := by
    obtain ⟨before, hbefore, rfl⟩ := Option.map_eq_some_iff.mp hjob
    exact h.job before hbefore

theorem Traced.assigned (h : Traced writable origin session) {write : PreviewJob → PreviewJob}
    (hwrite : ∀ job, Version writable origin job → Version writable origin (write job)) :
    Traced writable origin { session with
      job := session.job.map fun job => { job with value := write job.value } } where
  row := h.row
  updated := h.updated
  job job hjob := by
    obtain ⟨before, hbefore, rfl⟩ := Option.map_eq_some_iff.mp hjob
    exact hwrite _ (h.job before hbefore)

theorem Traced.loaded (h : Traced writable origin session) :
    Traced writable origin { session with job := some (.load session.visible) } where
  row := h.row
  updated := h.updated
  job job hjob := by
    obtain rfl := Option.some.inj hjob
    exact h.visible

end Session

-- ============================================================================
-- The operations
-- ============================================================================

/-- An action that writes what it may, and raises what may be reported. -/
abbrev Keeps {α : Type} (writable : Writable) (origin : PreviewJob) (x : WorkerM α) : Prop :=
  Ensures (Traced writable origin) x (fun _ => Traced writable origin) (Attributed writable origin)

section Operations

variable {writable : Writable} {origin : PreviewJob} (collaborators : Collaborators)

theorem keeps_commit (site : Site) : Keeps writable origin (commit collaborators site) where
  returns {s _ s'} hs hrun := by
    rcases commit_cases collaborators site s with ⟨-, h⟩ | ⟨-, h⟩ | ⟨-, error, atFlush, h⟩ <;>
      rw [h] at hrun <;> cases hrun
    exact hs.committed
  raises {s e s'} hs hrun := by
    rcases commit_cases collaborators site s with ⟨-, h⟩ | ⟨-, h⟩ | ⟨-, error, atFlush, h⟩ <;>
      rw [h] at hrun <;> cases hrun
    · exact hs.attributed rfl
    · exact (hs.refused _ _).attributed rfl

theorem keeps_execute {change : PreviewJob → Option PreviewJob}
    (hchange : ∀ row changed, Version writable origin row → change row = some changed →
      Version writable origin changed) : Keeps writable origin (execute change) where
  returns {s _ s'} hs hrun := by
    unfold execute at hrun
    split at hrun
    · cases hrun
    · split at hrun
      · rename_i row hrow
        cases hrun
        refine { hs with updated := fun updated hupdated => ?_ }
        obtain rfl := Option.some.inj hupdated
        exact hchange _ _ hs.visible hrow
      · cases hrun
        exact hs
  raises {s e s'} hs hrun := by
    unfold execute at hrun
    split at hrun
    · cases hrun
      exact hs.attributed rfl
    · split at hrun <;> cases hrun

theorem keeps_getJob : Keeps writable origin getJob where
  returns {s _ s'} hs hrun := by
    unfold getJob at hrun
    split at hrun
    · cases hrun
    · cases hrun
      exact hs.loaded
  raises {s e s'} hs hrun := by
    unfold getJob at hrun
    split at hrun
    · cases hrun
      exact hs.attributed rfl
    · cases hrun

theorem ensures_readJob_version :
    Ensures (Traced writable origin) readJob
      (fun job s => Version writable origin job ∧ Traced writable origin s)
      (Attributed writable origin) where
  returns {s job s'} hs hrun := by
    unfold readJob at hrun
    split at hrun
    · cases hrun
    · rename_i loaded hloaded
      split at hrun
      · split at hrun
        · cases hrun
        · cases hrun
          exact ⟨hs.visible, hs.loaded⟩
      · cases hrun
        exact ⟨hs.job _ hloaded, hs⟩
  raises {s e s'} hs hrun := by
    unfold readJob at hrun
    split at hrun
    · cases hrun
      exact hs.attributed rfl
    · split at hrun
      · split at hrun <;> cases hrun
        exact hs.attributed rfl
      · cases hrun

theorem keeps_readJob_bind {α : Type} {f : PreviewJob → WorkerM α}
    (hf : ∀ job, Version writable origin job → Keeps writable origin (f job)) :
    Keeps writable origin (readJob >>= f) :=
  ensures_readJob_version.bind fun job => ensures_of_fact (hf job)

theorem keeps_assignJob {write : PreviewJob → PreviewJob}
    (hwrite : ∀ job, Version writable origin job → Version writable origin (write job)) :
    Keeps writable origin (assignJob write) :=
  ensures_of_returns fun _ hs => ⟨_, _, rfl, hs.assigned hwrite⟩

theorem keeps_rollback : Keeps writable origin rollback :=
  ensures_of_returns fun _ hs => ⟨_, _, rfl, hs.rolledBack⟩

theorem keeps_throw {α : Type} {error : PreviewException}
    (hmessage : ∀ message, error.message = some message → writable.message message) :
    Keeps writable origin (throw error : WorkerM α) :=
  ensures_throw fun _ hs => { hs with message := hmessage }

/-- What the call returns is known afterwards, and what it raises can be reported. -/
theorem keeps_call_bind {α β : Type} (site : Site) {outcome : Except PreviewException α}
    {f : α → WorkerM β}
    (hmessage : ∀ error message, outcome = .error error → error.message = some message →
      writable.message message)
    (hf : ∀ value, outcome = .ok value → Keeps writable origin (f value)) :
    Keeps writable origin (call site outcome >>= f) := by
  cases outcome with
  | ok value =>
      refine Ensures.bind (S := fun found s => found = value ∧ Traced writable origin s)
        (ensures_of_returns fun s hs => ⟨value, s, rfl, rfl, hs⟩) fun found =>
          ensures_of_fact fun hfound => ?_
      rw [hfound]
      exact hf value rfl
  | error error =>
      refine Ensures.bind (S := fun _ _ => False) ⟨fun hs hrun => ?_, fun hs hrun => ?_⟩
        fun _ => ensures_of_unreachable fun _ hs => hs
      · cases hrun
      · cases hrun
        exact ⟨⟨hs.row, hs.updated, hs.job⟩, fun message => hmessage error message rfl⟩

theorem keeps_claimJob (allowRunningRetry : Bool) :
    Keeps writable origin (claimJob collaborators allowRunningRetry) := by
  refine (ensures_now collaborators).bind fun startedAt =>
    (keeps_execute fun _ _ hrow => hrow.claimJob).bind fun matched =>
      (keeps_commit collaborators .claimJob).bind fun _ => ?_
  cases matched with
  | true => exact keeps_getJob.bind fun _ => ensures_pure fun _ hs => hs
  | false => exact ensures_pure fun _ hs => hs

theorem keeps_updateProgress (stage : JobStage) (progress : Nat) :
    Keeps writable origin (updateProgress collaborators stage progress) :=
  (keeps_assignJob fun _ hjob => hjob.updateProgress stage progress).bind fun _ =>
    keeps_commit collaborators .updateProgress

theorem keeps_completeJob {result : Json} (hresult : writable.result result) :
    Keeps writable origin (completeJob collaborators result) :=
  keeps_readJob_bind fun _ _ => (ensures_now collaborators).bind fun completedAt =>
    (keeps_assignJob fun _ hjob => hjob.completeJob completedAt hresult).bind fun _ =>
      keeps_commit collaborators .completeJob

theorem keeps_failJob {error : String} (hmessage : writable.message error) :
    Keeps writable origin (failJob collaborators error) :=
  keeps_readJob_bind fun _ _ => (ensures_now collaborators).bind fun completedAt =>
    (keeps_assignJob fun _ hjob => hjob.failJob completedAt hmessage).bind fun _ =>
      keeps_commit collaborators .failJob

theorem keeps_transition (site : Site) (hmessage : writable.message operationalFailureMessage) :
    Keeps writable origin (transitionJobAfterOperationalFailure collaborators site) := by
  refine (ensures_now collaborators).bind fun completedAt =>
    (keeps_execute fun row changed hrow hchanged => ?_).bind fun changed =>
      (keeps_commit collaborators site).bind fun _ => ?_
  · split at hchanged
    · obtain rfl := Option.some.inj hchanged
      exact hrow.transition false completedAt hmessage
    · cases hchanged
  · cases changed with
    | true => exact keeps_getJob
    | false => exact ensures_pure fun _ hs => hs

theorem keeps_raiseTransientFailure : Keeps writable origin raiseTransientFailure :=
  keeps_rollback.bind fun _ => keeps_throw fun _ hnone => by cases hnone

theorem keeps_persistFailure {message : String} (hmessage : writable.message message) :
    Keeps writable origin (persistFailure collaborators message) := by
  refine (keeps_failJob collaborators hmessage).tryCatch fun error => ?_
  split
  · exact (keeps_readJob_bind fun _ _ => keeps_raiseTransientFailure).of_pre
      fun _ hs => hs.toTraced
  · exact ensures_throw fun _ hs => hs

theorem keeps_assertJob : Keeps writable origin assertJob where
  returns {s _ s'} hs hrun := by
    unfold assertJob at hrun
    split at hrun <;> cases hrun
    exact hs
  raises {s e s'} hs hrun := by
    unfold assertJob at hrun
    split at hrun <;> cases hrun
    exact hs.attributed rfl

end Operations

-- ============================================================================
-- An execution
-- ============================================================================

/-- Whatever the collaborators make of a text may be written. -/
structure Permits (writable : Writable) (collaborators : Collaborators) (text : String) :
    Prop where
  result : ∀ parsed preview document, collaborators.parse text = .ok parsed →
    collaborators.previewFactory parsed = .ok preview →
    serializePreview collaborators.rendering parsed preview = .ok document →
      writable.result document
  parse : ∀ error message, collaborators.parse text = .error error →
    error.message = some message → writable.message message
  preview : ∀ parsed error message, collaborators.parse text = .ok parsed →
    collaborators.previewFactory parsed = .error error → error.message = some message →
      writable.message message
  serialize : ∀ parsed preview error message, collaborators.parse text = .ok parsed →
    collaborators.previewFactory parsed = .ok preview →
    serializePreview collaborators.rendering parsed preview = .error error →
    (PreviewException.ofPyError error).message = some message → writable.message message
  unparsed : writable.message "Unable to parse the strategy."
  failed : writable.message operationalFailureMessage

section Execution

variable {writable : Writable} {origin : PreviewJob} {collaborators : Collaborators}

theorem keeps_executeJob (h : Permits writable collaborators origin.strategyText)
    (allowRunningRetry : Bool) :
    Keeps writable origin (executeJob collaborators allowRunningRetry) := by
  refine (keeps_claimJob collaborators allowRunningRetry).bind fun claimed => ?_
  cases claimed with
  | false => exact ensures_pure fun _ hs => hs
  | true =>
      refine keeps_readJob_bind fun job hjob => ?_
      rw [hjob.strategyText]
      refine keeps_call_bind .parse h.parse fun parsed hparsed => ?_
      refine (keeps_updateProgress collaborators .validating 35).bind fun _ => ?_
      refine (keeps_updateProgress collaborators .compiling 50).bind fun _ => ?_
      refine (keeps_updateProgress collaborators .loadingData 70).bind fun _ => ?_
      refine (keeps_updateProgress collaborators .backtesting 85).bind fun _ => ?_
      refine keeps_call_bind .previewFactory (fun error message => h.preview parsed error message
        hparsed) fun preview hpreview => ?_
      refine (keeps_updateProgress collaborators .generatingResults 95).bind fun _ => ?_
      refine keeps_call_bind .serializePreview (fun error message herror hmessage => ?_)
        fun document hdocument => ?_
      · cases hserialized : serializePreview collaborators.rendering parsed preview with
        | ok document =>
            rw [hserialized] at herror
            cases herror
        | error cause =>
            rw [hserialized] at herror
            obtain rfl := Except.error.inj herror
            exact h.serialize parsed preview cause message hparsed hpreview hserialized hmessage
      · have hserialized : serializePreview collaborators.rendering parsed preview =
            .ok document := mapError_eq_ok.mp hdocument
        exact (keeps_completeJob collaborators (h.result parsed preview document hparsed hpreview
          hserialized)).bind fun _ => ensures_pure fun _ hs => hs

theorem keeps_handleUnexpected (h : Permits writable collaborators origin.strategyText) :
    Keeps writable origin (handleUnexpected collaborators) := by
  refine Ensures.bind (S := fun _ => Traced writable origin)
    (ensures_of_returns fun s hs => ⟨_, _, rfl, hs⟩) fun session => ?_
  split
  · exact keeps_rollback.bind fun _ => keeps_transition collaborators .transition h.failed
  · exact keeps_persistFailure collaborators h.failed

/-- A handler writes the message of the exception it handles, or a fixed one. -/
theorem keeps_handleException (h : Permits writable collaborators origin.strategyText)
    (error : PreviewException) :
    Ensures (Attributed writable origin error) (handleException collaborators error)
      (fun _ => Traced writable origin) (Attributed writable origin) := by
  have hpersist {message : String} (hmessage : writable.message message) :
      Keeps writable origin (assertJob >>= fun _ => persistFailure collaborators message) :=
    keeps_assertJob.bind fun _ => keeps_persistFailure collaborators hmessage
  have hreported {message : String} (hsome : error.message = some message) :
      Ensures (Attributed writable origin error)
        (assertJob >>= fun _ => persistFailure collaborators message)
        (fun _ => Traced writable origin) (Attributed writable origin) :=
    ⟨fun hs hrun => (hpersist (hs.message message hsome)).returns hs.toTraced hrun,
      fun hs hrun => (hpersist (hs.message message hsome)).raises hs.toTraced hrun⟩
  have hunexpected : Ensures (Attributed writable origin error) (handleUnexpected collaborators)
      (fun _ => Traced writable origin) (Attributed writable origin) :=
    (keeps_handleUnexpected h).of_pre fun _ hs => hs.toTraced
  have hretry : Ensures (Attributed writable origin error) raiseTransientFailure
      (fun _ => Traced writable origin) (Attributed writable origin) :=
    keeps_raiseTransientFailure.of_pre fun _ hs => hs.toTraced
  cases error with
  | strategyValidationError message => exact hreported rfl
  | strategyCompilationError message => exact hreported rfl
  | marketDataUnavailableError message => exact hreported rfl
  | strategyProviderTimeoutError => exact hretry
  | strategyParserError => exact (hpersist h.unparsed).of_pre fun _ hs => hs.toTraced
  | database error =>
      by_cases htransient : (PreviewException.database error).TransientDatabase
      · simp only [handleException, if_pos htransient]
        exact hretry
      · simp only [handleException, if_neg htransient]
        exact hunexpected
  | pendingRollbackError => exact hunexpected
  | transientPreviewJobError => exact hunexpected
  | assertionError => exact hunexpected
  | other => exact hunexpected

theorem keeps_handleWorkerException (h : Permits writable collaborators origin.strategyText)
    (error : PreviewException) :
    Ensures (Attributed writable origin error) (handleWorkerException collaborators error)
      (fun _ => Traced writable origin) (Attributed writable origin) := by
  have hraise : Keeps writable origin
      (rollback >>= fun _ => throw .transientPreviewJobError : WorkerM Unit) :=
    keeps_rollback.bind fun _ => keeps_throw fun _ hnone => by cases hnone
  unfold handleWorkerException
  split
  · exact hraise.of_pre fun _ hs => hs.toTraced
  · split
    · exact ensures_throw fun _ hs => hs
    · refine (keeps_rollback.bind fun _ => ?_).of_pre fun _ hs => hs.toTraced
      refine (keeps_transition collaborators .lastResort h.failed).tryCatch fun _ => ?_
      split
      · exact hraise.of_pre fun _ hs => hs.toTraced
      · exact keeps_rollback.of_pre fun _ hs => hs.toTraced

theorem keeps_processPreviewJob (h : Permits writable collaborators origin.strategyText)
    (settings : Settings) (retriesLeft : Option Nat) :
    Keeps writable origin (processPreviewJob collaborators settings retriesLeft) := by
  refine Ensures.withCleanup (Ensures.tryCatch
    (((keeps_executeJob h _).tryCatch fun error =>
      (keeps_handleException h error).bind fun _ => ensures_pure fun _ hs => hs).bind
        fun _ => ensures_pure fun _ hs => hs)
    (keeps_handleWorkerException h)) (fun _ s hs => ?_) (fun _ s hs => ?_)
  · rw [after_releaseLock]
    exact hs.rolledBack
  · rw [after_releaseLock]
    exact ⟨hs.toTraced.rolledBack, hs.message⟩

/-- However the execution ends, it leaves a version of the row. -/
theorem Version.after_processPreviewJob {row : PreviewJob} (hrow : Version writable origin row)
    (h : Permits writable collaborators origin.strategyText) (settings : Settings)
    (retriesLeft : Option Nat) :
    Version writable origin
      (after (processPreviewJob collaborators settings retriesLeft) (.opened row)).row :=
  (keeps_processPreviewJob h settings retriesLeft).holds_after (fun _ _ hs => hs.row)
    (fun _ _ hs => hs.row) (Traced.opened hrow)

end Execution

-- ============================================================================
-- The life of a row
-- ============================================================================

/-- How the handlers of `run_preview_job` see what the parser raises. -/
def PreviewException.ofParserError : ParserError → PreviewException
  | .pipeline error => .ofPyError error
  | .strategyProviderTimeoutError _ => .strategyProviderTimeoutError
  | _ => .strategyParserError

/-- What is outside of one execution: the parser's settings and its provider, what the query of
    the bars ends in, and the answers of the database. -/
structure Attempt where
  parser : OpenAIStrategyParser
  table : Except DatabaseError (List MarketDataRow)
  commits : Nat → CommitOutcome
  clock : Nat → Timestamp
  retriesLeft : Option Nat

/-- What changes a row after its insertion. -/
inductive RowEvent where
  /-- `fail_job` in `submit_preview_job` -/
  | enqueueFailure (now : Timestamp)
  /-- `process_preview_job` -/
  | execution (attempt : Attempt)
  /-- `handle_preview_job_failure` -/
  | operationalFailure (willRetry : Bool) (now : Timestamp)
  /-- the transition in `reconcile_preview_jobs` -/
  | recovery (willRetry : Bool) (now : Timestamp)

section Lifetime

variable (word : Char → Bool) (lower : String → String) (rendering : Rendering)
  (power : Decimal → Decimal → Except PyError Decimal) (settings : Settings)

/-- `create_preview`; the strategy is compiled before the bars are queried. -/
def Attempt.previewFactory (attempt : Attempt) (parsed : ParsedStrategyResult) :
    Except PreviewException StrategyPreview :=
  match attempt.table with
  | .ok rows => (createPreview power rendering rows parsed).mapError .ofPyError
  | .error error => do
      let _compiled ← (compileStrategy parsed.specification).mapError .ofPyError
      throw (.database error)

/-- What an execution of `process_preview_job` is given. -/
def Attempt.collaborators (attempt : Attempt) : Collaborators where
  parse text := (attempt.parser.parse word lower rendering text).mapError .ofParserError
  previewFactory := attempt.previewFactory rendering power
  rendering := rendering
  commits := attempt.commits
  clock := attempt.clock

/-- What an event makes of the row. -/
def RowEvent.apply (row : PreviewJob) : RowEvent → PreviewJob
  | .enqueueFailure now =>
      row.flush (Jobs.failJob row "Unable to queue the strategy preview." now) row
  | .execution attempt =>
      (after (processPreviewJob (attempt.collaborators word lower rendering power) settings
        attempt.retriesLeft) (.opened row)).row
  | .operationalFailure willRetry now =>
      Jobs.transitionJobAfterOperationalFailure willRetry operationalFailureMessage now row
  | .recovery willRetry now =>
      Jobs.transitionJobAfterOperationalFailure willRetry recoveryFailureMessage now row

theorem previewFactory_eq_ok {attempt : Attempt} {parsed : ParsedStrategyResult}
    {preview : StrategyPreview}
    (h : attempt.previewFactory rendering power parsed = .ok preview) :
    ∃ rows, attempt.table = .ok rows ∧ createPreview power rendering rows parsed = .ok preview := by
  unfold Attempt.previewFactory at h
  cases htable : attempt.table with
  | ok rows =>
      rw [htable] at h
      exact ⟨rows, rfl, mapError_eq_ok.mp h⟩
  | error error =>
      rw [htable] at h
      obtain ⟨_, -, h⟩ := Python.bind_eq_ok h
      cases h

theorem previewFactory_eq_error {attempt : Attempt} {parsed : ParsedStrategyResult}
    {error : PreviewException} {message : String}
    (h : attempt.previewFactory rendering power parsed = .error error)
    (hmessage : error.message = some message) :
    ∃ cause, .ofPyError cause = error ∧ (compileStrategy parsed.specification = .error cause ∨
      ∃ rows, attempt.table = .ok rows ∧ createPreview power rendering rows parsed =
        .error cause) := by
  unfold Attempt.previewFactory at h
  cases htable : attempt.table with
  | ok rows =>
      rw [htable] at h
      obtain ⟨cause, hcause, heq⟩ := mapError_eq_error.mp h
      exact ⟨cause, heq, .inr ⟨rows, rfl, hcause⟩⟩
  | error refused =>
      rw [htable] at h
      cases hcompiled : compileStrategy parsed.specification with
      | ok compiled =>
          rw [hcompiled] at h
          obtain rfl := Except.error.inj h
          cases hmessage
      | error cause =>
          rw [hcompiled] at h
          exact ⟨cause, Except.error.inj h, .inl rfl⟩

/-- The document of a preview of what the parser of the attempt made of the text, and what the
    parser had checked. -/
structure Previewed (attempt : Attempt) (text : String) (parsed : ParsedStrategyResult)
    (document : Json) : Prop where
  parse : attempt.parser.parse word lower rendering text = .ok parsed
  notBlank : Python.strip text ≠ ""
  checked : validateStrategyText word lower rendering text = .ok ()
  valid : ParsedResultValid text parsed
  controls : extractRiskControlsFrom word rendering text =
    .ok ⟨parsed.specification.stopLossPercent, parsed.specification.takeProfitPercent⟩
  serialized : ∃ rows preview, attempt.table = .ok rows ∧
    createPreview power rendering rows parsed = .ok preview ∧
    serializePreview rendering parsed preview = .ok document

/-- The application's own check that turned a text down: in the parser, the preview or its
    serialization. -/
inductive TurnedDown (attempt : Attempt) (text : String) : PyError → Prop where
  | parse {error : PyError} : attempt.parser.parse word lower rendering text =
      .error (.pipeline error) → TurnedDown attempt text error
  | compile {parsed : ParsedStrategyResult} {error : PyError} :
      attempt.parser.parse word lower rendering text = .ok parsed →
      compileStrategy parsed.specification = .error error → TurnedDown attempt text error
  | preview {parsed : ParsedStrategyResult} {rows : List MarketDataRow} {error : PyError} :
      attempt.parser.parse word lower rendering text = .ok parsed → attempt.table = .ok rows →
      createPreview power rendering rows parsed = .error error → TurnedDown attempt text error
  | serialize {parsed : ParsedStrategyResult} {rows : List MarketDataRow}
      {preview : StrategyPreview} {error : PyError} :
      attempt.parser.parse word lower rendering text = .ok parsed → attempt.table = .ok rows →
      createPreview power rendering rows parsed = .ok preview →
      serializePreview rendering parsed preview = .error error → TurnedDown attempt text error

/-- The messages that do not depend on the strategy. -/
def fixedMessages : List String :=
  [operationalFailureMessage, recoveryFailureMessage, "Unable to parse the strategy.",
    "Unable to queue the strategy preview."]

/-- What the executions of a text may write. -/
def lifetimeWritable (events : List RowEvent) (text : String) : Writable where
  result document := ∃ attempt parsed, .execution attempt ∈ events ∧
    Previewed word lower rendering power attempt text parsed document
  message message := message ∈ fixedMessages ∨ ∃ attempt error, .execution attempt ∈ events ∧
    TurnedDown word lower rendering power attempt text error ∧
    (PreviewException.ofPyError error).message = some message

variable {word lower rendering power settings}

theorem collaborators_parse (attempt : Attempt) (text : String) :
    (attempt.collaborators word lower rendering power).parse text =
      (attempt.parser.parse word lower rendering text).mapError .ofParserError := rfl

theorem parse_of_collaborators {attempt : Attempt} {text : String} {parsed : ParsedStrategyResult}
    (h : (attempt.collaborators word lower rendering power).parse text = .ok parsed) :
    attempt.parser.parse word lower rendering text = .ok parsed := by
  rw [collaborators_parse] at h
  exact mapError_eq_ok.mp h

/-- What an execution of the life can make of the text may be written in it. -/
theorem permits_lifetime {events : List RowEvent} {attempt : Attempt} (text : String)
    (hattempt : .execution attempt ∈ events) :
    Permits (lifetimeWritable word lower rendering power events text)
      (attempt.collaborators word lower rendering power) text where
  result parsed preview document hparse hpreview hserialized := by
    have hparsed := parse_of_collaborators hparse
    obtain ⟨rows, hrows, hpreview⟩ := previewFactory_eq_ok rendering power hpreview
    obtain ⟨hblank, hchecked, hvalid, hcontrols⟩ := parse_checked hparsed
    exact ⟨attempt, parsed, hattempt, hparsed, hblank, hchecked, hvalid, hcontrols, rows, preview,
      hrows, hpreview, hserialized⟩
  parse error message hparse hmessage := by
    rw [collaborators_parse] at hparse
    obtain ⟨cause, hcause, rfl⟩ := mapError_eq_error.mp hparse
    cases cause with
    | pipeline cause => exact .inr ⟨attempt, cause, hattempt, .parse hcause, hmessage⟩
    | _ => cases hmessage
  preview parsed error message hparse hpreview hmessage := by
    have hparsed := parse_of_collaborators hparse
    obtain ⟨cause, rfl, hcause⟩ := previewFactory_eq_error rendering power hpreview hmessage
    refine .inr ⟨attempt, cause, hattempt, ?_, hmessage⟩
    rcases hcause with hcompiled | ⟨rows, hrows, hpreviewed⟩
    · exact .compile hparsed hcompiled
    · exact .preview hparsed hrows hpreviewed
  serialize parsed preview error message hparse hpreview hserialized hmessage := by
    have hparsed := parse_of_collaborators hparse
    obtain ⟨rows, hrows, hpreview⟩ := previewFactory_eq_ok rendering power hpreview
    exact .inr ⟨attempt, error, hattempt, .serialize hparsed hrows hpreview hserialized, hmessage⟩
  unparsed := .inl (by simp [fixedMessages])
  failed := .inl (by simp [fixedMessages])

theorem Version.apply {events : List RowEvent} {origin row : PreviewJob} {event : RowEvent}
    (hrow : Version (lifetimeWritable word lower rendering power events origin.strategyText)
      origin row) (hevent : event ∈ events) :
    Version (lifetimeWritable word lower rendering power events origin.strategyText) origin
      (event.apply word lower rendering power settings row) := by
  cases event with
  | enqueueFailure now =>
      exact (hrow.failJob now (.inl (by simp [fixedMessages]))).flush row hrow
  | execution attempt => exact hrow.after_processPreviewJob (permits_lifetime _ hevent) settings _
  | operationalFailure willRetry now =>
      exact hrow.transition willRetry now (.inl (by simp [fixedMessages]))
  | recovery willRetry now =>
      exact hrow.transition willRetry now (.inl (by simp [fixedMessages]))

/-- What is in a row that began without a result and an error was written. -/
theorem Version.written {writable : Writable} {origin row : PreviewJob}
    (h : Version writable origin row) (hresult : origin.previewResult = none)
    (herror : origin.errorMessage = none) :
    (∀ document, row.previewResult = some document → writable.result document) ∧
      ∀ message, row.errorMessage = some message → writable.message message := by
  refine ⟨fun document hdocument => ?_, fun message hmessage => ?_⟩
  · rcases h.previewResult with hsame | ⟨written, hwritten, hwritable⟩
    · rw [hdocument, hresult] at hsame
      cases hsame
    · obtain rfl := Option.some.inj (hwritten.symm.trans hdocument)
      exact hwritable
  · rcases h.errorMessage with hsame | hnone | ⟨written, hwritten, hwritable⟩
    · rw [hmessage, herror] at hsame
      cases hsame
    · rw [hmessage] at hnone
      cases hnone
    · obtain rfl := Option.some.inj (hwritten.symm.trans hmessage)
      exact hwritable

end Lifetime

end Workers
end TradingPlatform
