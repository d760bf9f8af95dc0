/-
  TradingPlatform.Frontend.PreviewJobGuard

  `isPreviewJob` of `lib/strategies/api.ts`, and what a poll makes of the answers
  of `get_preview_job`.

  The guard repeats, as types and ranges of fields, what the backend keeps of a
  row.  Over consistent rows it therefore rejects nothing but numbers that
  overflow a double, and the texts that the page falls back to are never shown.
-/

import TradingPlatform.Api.PreviewJobs
import TradingPlatform.Frontend.PreviewJobRuns
import TradingPlatform.Jobs.RowConsistency

namespace TradingPlatform

-- ============================================================================
-- The dumped response
-- ============================================================================

namespace Jobs

/-- The text of a status. -/
def JobStatus.value : JobStatus → String
  | .queued => "queued"
  | .running => "running"
  | .completed => "completed"
  | .failed => "failed"

/-- The text of a stage. -/
def JobStage.value : JobStage → String
  | .queued => "queued"
  | .parsing => "parsing"
  | .validating => "validating"
  | .compiling => "compiling"
  | .loadingData => "loading_data"
  | .backtesting => "backtesting"
  | .generatingResults => "generating_results"
  | .completed => "completed"
  | .failed => "failed"

end Jobs

namespace Api

/-- `model_dump(mode="json")`; `uuid` is the text of an id. -/
def PreviewJobResponse.modelDump (uuid : Jobs.JobId → String) (rendering : Rendering)
    (response : PreviewJobResponse) : Json :=
  .object [("id", .str (uuid response.id)), ("status", .str response.status.value),
    ("stage", .str response.stage.value), ("progress", .int response.progress),
    ("created_at", .str (rendering.isoformat response.createdAt)),
    ("started_at", .ofOption ((response.startedAt.map rendering.isoformat).map .str)),
    ("completed_at", .ofOption ((response.completedAt.map rendering.isoformat).map .str)),
    ("error", .ofOption (response.error.map .str)),
    ("preview_result", .ofOption (response.previewResult.map (·.modelDump rendering)))]

end Api

namespace Frontend

open JavaScript Schemas
open Jobs (JobStatus JobStage)

-- ============================================================================
-- The guard
-- ============================================================================

/-- `JOB_STATUSES`, with what each text says. -/
def jobStatuses : List (String × PreviewJobStatus) :=
  [("queued", .queued), ("running", .running), ("completed", .completed), ("failed", .failed)]

/-- `JOB_STAGES`, with what each text says. -/
def jobStages : List (String × PreviewJobStage) :=
  [("queued", .queued), ("parsing", .parsing), ("validating", .validating),
    ("compiling", .compiling), ("loading_data", .loadingData), ("backtesting", .backtesting),
    ("generating_results", .generatingResults), ("completed", .completed), ("failed", .failed)]

/-- `typeof value === "string" && MEMBERS.has(value)` -/
def isMember {α : Type} (members : List (String × α)) : Json → Bool
  | .str text => (members.lookup text).isSome
  | _ => false

/-- `Number.isInteger(value) && value >= 0 && value <= 100` -/
def isProgress (value : Json) : Bool :=
  isInteger value && (written value).any fun v => 0 ≤ Double.nearest v ∧ Double.nearest v ≤ 100

/-- `value === null` -/
def isNull : Json → Bool
  | .null => true
  | _ => false

/-- `value === "completed"` -/
def isCompleted : Json → Bool
  | .str text => text = "completed"
  | _ => false

/-- The guard of an answer: the fields of a job, and a preview exactly if it is completed. -/
def isPreviewJob (number : String → Option Decimal) (value : Json) : Bool :=
  isStrategyJson value && property value "id" isString &&
    property value "status" (isMember jobStatuses) &&
    property value "stage" (isMember jobStages) && property value "progress" isProgress &&
    property value "created_at" isString && property value "started_at" isNullableString &&
    property value "completed_at" isNullableString && property value "error" isNullableString &&
    property value "preview_result"
      (if property value "status" isCompleted then isStrategyPreview number else isNull)

-- ============================================================================
-- What the page reads
-- ============================================================================

/-- `value[name]`, where the guard found it. -/
def member (value : Json) (name : String) : Json :=
  match value with
  | .object entries => (entries.lookup name).getD .null
  | _ => .null

/-- The text that the guard found. -/
def text : Json → String
  | .str value => value
  | _ => ""

/-- The text that the guard found, if it was not `null`. -/
def nullableText : Json → Option String
  | .str value => some value
  | _ => none

/-- An accepted preview, under the names of its type. -/
def StrategyPreview.ofJson (value : Json) : StrategyPreview :=
  let parsed := member value "parsed_strategy"
  { parsedStrategy :=
      { specification := member parsed "specification"
        defaultsApplied := member parsed "defaults_applied"
        assumptions := member parsed "assumptions"
        requiresConfirmation :=
          match member parsed "requires_confirmation" with
          | .bool value => value
          | _ => false
        originalText := text (member parsed "original_text")
        interpretation := text (member parsed "interpretation") }
    backtest := member value "backtest" }

/-- The job that `getPreviewJob` returns, or `none` where it throws "The strategy service
    returned an invalid preview job." -/
def readPreviewJob (number : String → Option Decimal) (value : Json) : Option PreviewJob :=
  if isPreviewJob number value then do
    let status ← jobStatuses.lookup (text (member value "status"))
    let stage ← jobStages.lookup (text (member value "stage"))
    let progress ← written (member value "progress")
    return {
      id := text (member value "id")
      status := status
      stage := stage
      progress := (Double.nearest progress).num.toNat
      createdAt := text (member value "created_at")
      startedAt := nullableText (member value "started_at")
      completedAt := nullableText (member value "completed_at")
      error := nullableText (member value "error")
      previewResult :=
        match member value "preview_result" with
        | .null => none
        | preview => some (.ofJson preview) }
  else
    none

-- ============================================================================
-- Dumped responses
-- ============================================================================

/-- The same member of the page's enumeration. -/
def PreviewJobStatus.ofJob : JobStatus → PreviewJobStatus
  | .queued => .queued
  | .running => .running
  | .completed => .completed
  | .failed => .failed

/-- The same stage of the page's enumeration. -/
def PreviewJobStage.ofJob : JobStage → PreviewJobStage
  | .queued => .queued
  | .parsing => .parsing
  | .validating => .validating
  | .compiling => .compiling
  | .loadingData => .loadingData
  | .backtesting => .backtesting
  | .generatingResults => .generatingResults
  | .completed => .completed
  | .failed => .failed

theorem lookup_jobStatuses (status : JobStatus) :
    jobStatuses.lookup status.value = some (.ofJob status) := by
  cases status <;> rfl

theorem lookup_jobStages (stage : JobStage) :
    jobStages.lookup stage.value = some (.ofJob stage) := by
  cases stage <;> rfl

theorem isCompleted_value (status : JobStatus) :
    isCompleted (.str status.value) = decide (status = .completed) := by
  cases status <;> rfl

theorem isNullableString_ofOption (optional : Option String) :
    isNullableString (.ofOption (optional.map .str)) = true := by
  cases optional <;> rfl

theorem nullableText_ofOption (optional : Option String) :
    nullableText (.ofOption (optional.map .str)) = optional := by
  cases optional <;> rfl

theorem nearest_natCast {n : Nat} (hn : n ≤ 100) : Double.nearest (n : Int) = (n : Int) :=
  Double.nearest_intCast (by rw [abs_of_nonneg (by omega)]; omega)

theorem isProgress_int {n : Nat} (hn : n ≤ 100) : isProgress (.int n) = true := by
  have hfinite : Double.Finite (n : Int) :=
    Double.finite_intCast (by rw [abs_of_nonneg (by omega)]; omega)
  have hrange : 0 ≤ Double.nearest (n : Int) ∧ Double.nearest (n : Int) ≤ 100 := by
    rw [nearest_natCast hn]
    exact_mod_cast And.intro n.zero_le hn
  rw [isProgress, isInteger_int, decide_eq_true hfinite, Bool.true_and, written, Option.any_some]
  exact decide_eq_true hrange

section Dumped

variable {number : String → Option Decimal} {uuid : Jobs.JobId → String} {rendering : Rendering}
  {response : Api.PreviewJobResponse}

variable (uuid) in
/-- The preview of a completed job, and `null` for any other, pass the last check. -/
theorem isPreviewJob_modelDump (hreads : Reads number rendering)
    (hprogress : response.progress ≤ 100)
    (hresult : response.previewResult.isSome ↔ response.status = .completed) :
    isPreviewJob number (response.modelDump uuid rendering) = true ↔
      ∀ result ∈ response.previewResult, ∀ v ∈ result.backtest.magnitudes,
        |v| < Double.overflow := by
  have hcompleted : property (response.modelDump uuid rendering) "status" isCompleted =
      decide (response.status = .completed) := by
    rw [← isCompleted_value]
    simp [Api.PreviewJobResponse.modelDump, property, List.lookup_cons]
  have hlast : isPreviewJob number (response.modelDump uuid rendering) =
      (if response.status = .completed then isStrategyPreview number else isNull)
        (.ofOption (response.previewResult.map (·.modelDump rendering))) := by
    rw [isPreviewJob, hcompleted]
    simp [-Option.map_map, Api.PreviewJobResponse.modelDump, property, isStrategyJson, isString,
      isMember, lookup_jobStatuses, lookup_jobStages, isProgress_int hprogress,
      isNullableString_ofOption, List.lookup_cons]
  rw [hlast]
  cases hpreview : response.previewResult with
  | none =>
      have hstatus : response.status ≠ .completed := fun hstatus => by
        rw [hpreview] at hresult
        cases hresult.mpr hstatus
      simp [hstatus, Json.ofOption, isNull]
  | some result =>
      have hstatus : response.status = .completed := hresult.mp (by rw [hpreview]; rfl)
      rw [if_pos hstatus, Option.map_some, Json.ofOption, isStrategyPreview_modelDump hreads]
      simp

/-- A response under the names of the page. -/
def PreviewJob.ofResponse (uuid : Jobs.JobId → String) (rendering : Rendering)
    (response : Api.PreviewJobResponse) : PreviewJob where
  id := uuid response.id
  status := .ofJob response.status
  stage := .ofJob response.stage
  progress := response.progress
  createdAt := rendering.isoformat response.createdAt
  startedAt := response.startedAt.map rendering.isoformat
  completedAt := response.completedAt.map rendering.isoformat
  error := response.error
  previewResult := response.previewResult.map fun result => .ofJson (result.modelDump rendering)

theorem readPreviewJob_modelDump (hprogress : response.progress ≤ 100)
    (haccepted : isPreviewJob number (response.modelDump uuid rendering) = true) :
    readPreviewJob number (response.modelDump uuid rendering) =
      some (.ofResponse uuid rendering response) := by
  have hmember : ∀ name value, List.lookup name (match response.modelDump uuid rendering with
      | .object entries => entries
      | _ => []) = some value → member (response.modelDump uuid rendering) name = value :=
    fun name value h => congrArg (Option.getD · Json.null) h
  have hrounded : (Double.nearest (response.progress : Int)).num.toNat = response.progress := by
    rw [nearest_natCast hprogress]
    rfl
  have hpreview : (match Json.ofOption (response.previewResult.map (·.modelDump rendering)) with
      | .null => none
      | preview => some (StrategyPreview.ofJson preview)) =
        response.previewResult.map fun result => .ofJson (result.modelDump rendering) := by
    cases response.previewResult <;> rfl
  rw [readPreviewJob, if_pos haccepted, hmember "id" _ rfl, hmember "status" _ rfl,
    hmember "stage" _ rfl, hmember "progress" _ rfl, hmember "created_at" _ rfl,
    hmember "started_at" _ rfl, hmember "completed_at" _ rfl, hmember "error" _ rfl,
    hmember "preview_result" _ rfl, text, text, lookup_jobStatuses, lookup_jobStages,
    nullableText_ofOption, nullableText_ofOption, nullableText_ofOption, hpreview]
  show some _ = some _
  rw [hrounded]
  rfl

end Dumped

-- ============================================================================
-- The answer for a consistent row
-- ============================================================================

/-- What a 200 answer says of the row that it was read from. -/
structure Answers (row : Jobs.PreviewJob) (body : Api.PreviewJobResponse) : Prop where
  status : body.status = row.status
  progress : body.progress = row.progress
  error : body.error = row.errorMessage
  bounded : row.progress ≤ 100
  previewResult : body.previewResult.isSome ↔ row.status = .completed
  failed : row.status = .failed → row.errorMessage.isSome

theorem progress_le {row : Jobs.PreviewJob} (h : row.Consistent) : row.progress ≤ 100 := by
  unfold Jobs.PreviewJob.Consistent at h
  split at h <;> omega

theorem getPreviewJob_answers {reading : Pydantic.Reading}
    {rows : Jobs.JobId → Option Jobs.PreviewJob} {jobId : Jobs.JobId} {userId : String}
    {body : Api.PreviewJobResponse}
    (hconsistent : ∀ row, rows jobId = some row → row.Consistent)
    (hanswer : Api.getPreviewJob reading rows jobId userId = .job body) :
    ∃ row, rows jobId = some row ∧ row.userId = userId ∧ Answers row body := by
  unfold Api.getPreviewJob at hanswer
  split at hanswer
  · cases hanswer
  · rename_i row hjob
    obtain ⟨hrow, howner⟩ := Option.filter_eq_some_iff.mp hjob
    have hrow_consistent := hconsistent row hrow
    split at hanswer
    · cases hanswer
    · rename_i previewResult hread
      cases hanswer
      refine ⟨row, hrow, by simpa using howner, rfl, rfl, rfl, progress_le hrow_consistent, ?_, ?_⟩
      · by_cases hstatus : row.status = .completed
        · -- a completed row has a document, and it was validated
          obtain ⟨document, hdocument⟩ : ∃ document, row.previewResult = some document := by
            unfold Jobs.PreviewJob.Consistent at hrow_consistent
            rw [hstatus] at hrow_consistent
            exact Option.isSome_iff_exists.mp hrow_consistent.2.2.1
          simp only [Api.readPreviewResult, hdocument, if_pos hstatus] at hread
          cases hvalidated : StrategyPreviewResponse.modelValidate reading document with
          | error error =>
              rw [hvalidated] at hread
              cases hread
          | ok result =>
              rw [hvalidated] at hread
              obtain rfl := Except.ok.inj hread
              exact iff_of_true rfl hstatus
        · simp only [Api.readPreviewResult, hrow_consistent.previewResult hstatus] at hread
          obtain rfl := Except.ok.inj hread
          exact iff_of_false (by simp) hstatus
      · intro hstatus
        unfold Jobs.PreviewJob.Consistent at hrow_consistent
        rw [hstatus] at hrow_consistent
        exact hrow_consistent.2.2.1

-- ============================================================================
-- Polls of a running system
-- ============================================================================

section Polls

open Relation (ReflTransGen)

variable {row : Jobs.PreviewJob} {body : Api.PreviewJobResponse} {uuid : Jobs.JobId → String}
  {serialization : Rendering}

theorem terminal_ofResponse (h : Answers row body) :
    (PreviewJob.ofResponse uuid serialization body).Terminal ↔ ¬ row.status.Nonterminal := by
  rw [Jobs.JobStatus.terminal_iff, ← h.status]
  unfold PreviewJob.Terminal PreviewJob.ofResponse
  cases body.status <;> simp [PreviewJobStatus.ofJob]

/-- A poll shows the row: the preview of a completed one, the error of a failed one, and
    otherwise the next poll is armed. -/
theorem pollResolved_shows (h : Answers row body) {hook : Hook} {call : Pending JobId}
    (hcurrent : call.generation = hook.generationRef) :
    let nextJob := PreviewJob.ofResponse uuid serialization body
    let after := hook.pollResolved call nextJob
    after.shown.job = some nextJob ∧
    (row.status = .completed → after.timers = hook.timers ∧ after.shown.error = none ∧
      ∃ result, body.previewResult = some result ∧
        after.shown.preview = some (.ofJson (result.modelDump serialization))) ∧
    (row.status = .failed → after.timers = hook.timers ∧
      after.shown.error = row.errorMessage ∧ row.errorMessage.isSome) ∧
    (row.status.Nonterminal → after.shown.error = none ∧
      after.shown.preview = hook.shown.preview ∧
      ∃ timer, after.timers = timer :: hook.timers ∧ timer.argument = call.argument) := by
  intro nextJob after
  have hafter : after = hook.pollResolved call nextJob := rfl
  have hstatus : nextJob.status = .ofJob row.status := congrArg PreviewJobStatus.ofJob h.status
  have hterminal : nextJob.Terminal ↔ ¬ row.status.Nonterminal := terminal_ofResponse h
  cases hrow : row.status with
  | queued | running =>
      rw [hrow] at hstatus hterminal
      rw [Hook.pollResolved_unfinished hcurrent (hterminal.not.mpr (by decide))] at hafter
      have hshown : after.shown = ⟨some nextJob, hook.shown.preview, none⟩ := by
        rw [hafter]
        simp only [Hook.schedule, HookEvent.write, hstatus, PreviewJobStatus.ofJob]
      refine ⟨by rw [hshown], ?_, ?_, fun _ => ⟨by rw [hshown], by rw [hshown], ?_⟩⟩
      · intro hcompleted
        cases hcompleted
      · intro hfailed
        cases hfailed
      · rw [hafter]
        exact ⟨_, rfl, rfl⟩
  | completed =>
      rw [hrow] at hstatus hterminal
      rw [Hook.pollResolved_terminal hcurrent (hterminal.mpr (by decide))] at hafter
      have hshown : after.shown = ⟨some nextJob, nextJob.previewResult, none⟩ := by
        rw [hafter]
        simp only [HookEvent.write, hstatus, PreviewJobStatus.ofJob]
      obtain ⟨result, hresult⟩ := Option.isSome_iff_exists.mp (h.previewResult.mpr hrow)
      have hpreview : nextJob.previewResult = some (.ofJson (result.modelDump serialization)) :=
        congrArg (Option.map _) hresult
      refine ⟨by rw [hshown], fun _ => ⟨by rw [hafter], by rw [hshown], result, hresult, ?_⟩,
        ?_, fun hnonterminal => absurd hnonterminal (by decide)⟩
      · rw [hshown, hpreview]
      · intro hfailed
        cases hfailed
  | failed =>
      rw [hrow] at hstatus hterminal
      rw [Hook.pollResolved_terminal hcurrent (hterminal.mpr (by decide))] at hafter
      obtain ⟨message, hmessage⟩ := Option.isSome_iff_exists.mp (h.failed hrow)
      have herror : nextJob.error = some message := h.error.trans hmessage
      have hshown : after.shown = ⟨some nextJob, hook.shown.preview, some message⟩ := by
        rw [hafter]
        simp only [HookEvent.write, hstatus, PreviewJobStatus.ofJob, herror, Option.getD_some]
      refine ⟨by rw [hshown], ?_, fun _ => ⟨by rw [hafter], ?_, h.failed hrow⟩,
        fun hnonterminal => absurd hnonterminal (by decide)⟩
      · intro hcompleted
        cases hcompleted
      · rw [hshown, hmessage]

/-- In every run in which a job never has two live messages, the page rejects an answer of
    `get_preview_job` exactly if a number in its preview overflows a double, and a poll that
    got it shows what the row of the user's own job says. -/
theorem getPreviewJob_polled {settings : Jobs.Settings} {w : Jobs.World}
    (hrun : ReflTransGen (Jobs.OneMessageStep settings) .initial w)
    {number : String → Option Decimal} (hreads : Reads number serialization)
    (uuid : Jobs.JobId → String) {reading : Pydantic.Reading} {jobId : Jobs.JobId}
    {userId : String} (hanswer : Api.getPreviewJob reading w.rows jobId userId = .job body) :
    (readPreviewJob number (body.modelDump uuid serialization) = none ↔
      ∃ result, body.previewResult = some result ∧
        ∃ v ∈ result.backtest.magnitudes, Double.overflow ≤ |v|) ∧
    ∃ row, w.rows jobId = some row ∧ row.userId = userId ∧
      ∀ nextJob, readPreviewJob number (body.modelDump uuid serialization) = some nextJob →
        nextJob.progress = row.progress ∧ (nextJob.Terminal ↔ ¬ row.status.Nonterminal) ∧
        ∀ (hook : Hook) (call : Pending JobId), call.generation = hook.generationRef →
          let after := hook.pollResolved call nextJob
          after.shown.job = some nextJob ∧
          (row.status = .completed → after.timers = hook.timers ∧ after.shown.error = none ∧
            ∃ result, body.previewResult = some result ∧
              after.shown.preview = some (.ofJson (result.modelDump serialization))) ∧
          (row.status = .failed → after.timers = hook.timers ∧
            after.shown.error = row.errorMessage ∧ row.errorMessage.isSome) ∧
          (row.status.Nonterminal → after.shown.error = none ∧
            after.shown.preview = hook.shown.preview ∧
            ∃ timer, after.timers = timer :: hook.timers ∧ timer.argument = call.argument) := by
  have hconsistent : ∀ row, w.rows jobId = some row → row.Consistent := fun row =>
    (Transition.invariant Jobs.current_initial (fun _ _ => Jobs.current_step)
      hrun).rowsConsistent jobId row
  obtain ⟨row, hrow, howner, hanswers⟩ := getPreviewJob_answers hconsistent hanswer
  have hprogress : body.progress ≤ 100 := hanswers.progress.trans_le hanswers.bounded
  have hguard := isPreviewJob_modelDump uuid hreads hprogress
    (hanswers.previewResult.trans (by rw [hanswers.status]))
  refine ⟨?_, row, hrow, howner, fun nextJob hread => ?_⟩
  · by_cases haccepted : isPreviewJob number (body.modelDump uuid serialization) = true
    · rw [readPreviewJob_modelDump hprogress haccepted]
      refine iff_of_false nofun ?_
      rintro ⟨result, hresult, v, hv, hlarge⟩
      exact absurd (hguard.mp haccepted result hresult v hv) (not_lt.mpr hlarge)
    · refine iff_of_true (if_neg haccepted) ?_
      simpa using hguard.not.mp haccepted
  · have haccepted : isPreviewJob number (body.modelDump uuid serialization) = true := by
      by_contra hrejected
      rw [readPreviewJob, if_neg hrejected] at hread
      cases hread
    rw [readPreviewJob_modelDump hprogress haccepted] at hread
    obtain rfl := Option.some.inj hread
    exact ⟨hanswers.progress, terminal_ofResponse hanswers,
      fun hook call hcurrent => pollResolved_shows hanswers hcurrent⟩

end Polls

/-- A job that was completed with the preview of the threshold draft, polled. -/
theorem getPreviewJob_polled_completed : ∃ (w : Jobs.World) (row : Jobs.PreviewJob)
    (body : Api.PreviewJobResponse) (nextJob : PreviewJob) (result : StrategyPreviewResponse),
    Relation.ReflTransGen (Jobs.OneMessageStep Jobs.defaultSettings) .initial w ∧
    w.rows 0 = some row ∧ row.status = .completed ∧
    Api.getPreviewJob Services.plainReading w.rows 0 "user" = .job body ∧
    body.previewResult = some result ∧
    readPreviewJob Api.plainNumber (body.modelDump toString Services.plainRendering) =
      some nextJob ∧
    nextJob.Terminal ∧
    (Hook.initial.pollResolved ⟨"0", 0, 0, 0⟩ nextJob).shown.preview =
      some (.ofJson (result.modelDump Services.plainRendering)) := by
  obtain ⟨parsed, preview, hparsed, hpreview, hmagnitudes⟩ := Api.thresholdPreview
  obtain ⟨document, -, hvalidated⟩ := Api.serializePreview_validates
    Services.plainReading_inverts Services.plainText Services.wholePower Api.twoBarTable hparsed
    hpreview
  obtain ⟨w, row, hrun, hrow, howner, hcompleted, hdocument, -⟩ := Jobs.retriedRun document
  have hjob : Api.getJob w.rows 0 "user" = some row := by
    rw [Api.getJob, hrow]
    exact Option.filter_eq_some_iff.mpr ⟨rfl, by simpa using howner⟩
  obtain ⟨body, hanswer, hbody⟩ := Api.getPreviewJob_of_valid hvalidated hjob hdocument
  have hresult := hbody hcompleted
  obtain ⟨hrejected, stored, hstored, -, hpolled⟩ :=
    getPreviewJob_polled hrun Api.plainNumber_reads toString hanswer
  obtain rfl := Option.some.inj (hrow.symm.trans hstored)
  obtain ⟨nextJob, hread⟩ := Option.ne_none_iff_exists'.mp fun hnone => by
    obtain ⟨result, hother, v, hv, hlarge⟩ := hrejected.mp hnone
    obtain rfl := Option.some.inj (hresult.symm.trans hother)
    exact absurd (hmagnitudes v hv) (not_lt.mpr hlarge)
  obtain ⟨-, hterminal, hshown⟩ := hpolled nextJob hread
  obtain ⟨-, -, result, hother, hpreview⟩ := (hshown .initial ⟨"0", 0, 0, 0⟩ rfl).2.1 hcompleted
  exact ⟨w, row, body, nextJob, result, hrun, hrow, hcompleted, hanswer, hother, hread,
    hterminal.mpr (by rw [hcompleted]; decide), hpreview⟩

end Frontend
end TradingPlatform
