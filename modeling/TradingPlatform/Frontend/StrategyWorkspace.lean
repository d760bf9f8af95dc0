/-
  TradingPlatform.Frontend.StrategyWorkspace

  The preview part of `app/dashboard/strategy-workspace.tsx` around
  `usePreviewJob`, and what both show and save in every reachable state.

  A handler reads the state variables of the render it was created in, which is
  `Workspace.rendered`; a `render` step may come at any time.

  - `ResultOf` says that a run got a preview as the result of a job, and the job
    for a text.
  - `usePreviewJob_neverStale` is the result.
-/

import TradingPlatform.Core.JavaScript
import TradingPlatform.Frontend.PreviewJobRuns

namespace TradingPlatform
namespace Frontend

-- ============================================================================
-- Where a preview comes from
-- ============================================================================

/-- The text of the `n`-th `submit` call. -/
def textOf : List HookEvent → Nat → Option String
  | [], _ => none
  | .submit strategyText :: past, n =>
      if n = submits past + 1 then some strategyText else textOf past n
  | _ :: past, n => textOf past n

/-- The text of the latest `submit` call. -/
def latestText (events : List HookEvent) : Option String := textOf events (submits events)

/-- The run got `preview` as the result of a job that it submitted with `text`. -/
def ResultOf (events : List HookEvent) (text : String) (preview : StrategyPreview) : Prop :=
  ∃ (enqueue : Pending String) (jobId : JobId) (createdAt : String) (poll : Pending JobId)
      (response : PreviewJob),
    .enqueueResolved enqueue jobId createdAt ∈ events ∧ enqueue.argument = text ∧
      .pollResolved poll response ∈ events ∧ poll.argument = jobId ∧
      poll.submission = enqueue.submission ∧
      response.status = .completed ∧ response.previewResult = some preview

theorem ResultOf.cons {events : List HookEvent} {text : String} {preview : StrategyPreview}
    (h : ResultOf events text preview) (event : HookEvent) :
    ResultOf (event :: events) text preview := by
  obtain ⟨enqueue, jobId, createdAt, poll, response, henqueued, htext, hpolled, h⟩ := h
  exact ⟨enqueue, jobId, createdAt, poll, response, List.mem_cons_of_mem _ henqueued, htext,
    List.mem_cons_of_mem _ hpolled, h⟩

/-- The job of a poll or a timer was enqueued with the text of its `submit` call. -/
def Started (events : List HookEvent) (c : Pending JobId) : Prop :=
  ∃ (enqueue : Pending String) (createdAt : String),
    .enqueueResolved enqueue c.argument createdAt ∈ events ∧
      enqueue.submission = c.submission ∧ textOf events c.submission = some enqueue.argument

theorem le_submits_of_textOf {events : List HookEvent} {n : Nat} {text : String}
    (h : textOf events n = some text) : n ≤ submits events := by
  induction events with
  | nil => cases h
  | cons event past ih =>
      cases event with
      | submit strategyText =>
          rw [textOf] at h
          rw [submits_submit]
          split at h
          · omega
          · exact Nat.le_succ_of_le (ih h)
      | _ => exact ih h

theorem textOf_cons {events : List HookEvent} {n : Nat} {text : String}
    (h : textOf events n = some text) (event : HookEvent) :
    textOf (event :: events) n = some text := by
  have hle := le_submits_of_textOf h
  cases event with
  | submit strategyText =>
      rw [textOf, if_neg (by omega)]
      exact h
  | _ => exact h

theorem latestText_submit (strategyText : String) (past : List HookEvent) :
    latestText (.submit strategyText :: past) = some strategyText := by
  rw [latestText, submits_submit]
  exact if_pos rfl

theorem latestText_cons_of_ne {event : HookEvent} (past : List HookEvent)
    (hne : ∀ strategyText, event ≠ .submit strategyText) :
    latestText (event :: past) = latestText past := by
  rw [latestText, submits_cons_of_ne past hne]
  cases event with
  | submit strategyText => exact absurd rfl (hne strategyText)
  | _ => rfl

theorem Started.cons {events : List HookEvent} {c : Pending JobId} (h : Started events c)
    (event : HookEvent) : Started (event :: events) c := by
  obtain ⟨enqueue, createdAt, henqueued, hsubmission, htext⟩ := h
  exact ⟨enqueue, createdAt, List.mem_cons_of_mem _ henqueued, hsubmission, textOf_cons htext _⟩

theorem submissionOf_eq_submits {events : List HookEvent} {n : Nat}
    (h : submissionOf events = some n) : n = submits events := by
  induction events with
  | nil => cases h
  | cons event past ih =>
      cases event with
      | submit strategyText => rw [submits_submit, Option.some.inj h]
      | reset | unmount => cases h
      | _ => exact ih h

/-- A shown preview came with an own poll of the latest `submit`. -/
theorem preview_of_shownBy {events : List HookEvent} {preview : StrategyPreview}
    (h : (shownBy events).preview = some preview) :
    ∃ (poll : Pending JobId) (response : PreviewJob), .pollResolved poll response ∈ events ∧
      poll.submission = submits events ∧ response.status = .completed ∧
      response.previewResult = some preview := by
  induction events with
  | nil => cases h
  | cons event past ih =>
      -- a preview that was shown before the event
      have hbefore (hsame : submits (event :: past) = submits past)
          (hpast : (shownBy past).preview = some preview) :
          ∃ (poll : Pending JobId) (response : PreviewJob),
            .pollResolved poll response ∈ event :: past ∧
              poll.submission = submits (event :: past) ∧ response.status = .completed ∧
              response.previewResult = some preview := by
        obtain ⟨poll, response, hpolled, hsubmission, hresult⟩ := ih hpast
        exact ⟨poll, response, List.mem_cons_of_mem _ hpolled,
          hsubmission.trans hsame.symm, hresult⟩
      by_cases hown : event.IsOwn past
      · rw [Hook.shownBy_own hown] at h
        cases event with
        | submit | reset | unmount => exact absurd rfl hown.1
        | timerFired | enqueueResolved | enqueueRejected | pollRejected => exact hbefore rfl h
        | pollResolved call nextJob =>
            cases hstatus : nextJob.status with
            | completed =>
                rw [HookEvent.write, hstatus] at h
                exact ⟨call, nextJob, List.mem_cons_self .., submissionOf_eq_submits hown.2.symm,
                  hstatus, h⟩
            | queued | running | failed =>
                rw [HookEvent.write, hstatus] at h
                exact hbefore rfl h
      · cases event with
        | submit | reset => cases h
        | _ =>
            rw [Hook.shownBy_other hown (by simp [HookEvent.Clears])] at h
            exact hbefore rfl h

-- ============================================================================
-- The jobs of a run
-- ============================================================================

namespace Hook

section Jobs

variable {h h' : Hook} {event : HookEvent}

theorem mem_polls_poll {jobId : JobId} {generation ordinal : Nat} {call : Pending JobId}
    (hcall : call ∈ (h.poll jobId generation ordinal).polls) :
    call ∈ h.polls ∨ (call.argument = jobId ∧ call.submission = ordinal) := by
  unfold poll at hcall
  split at hcall
  · exact .inl hcall
  · rcases List.mem_cons.mp hcall with rfl | hold
    · exact .inr ⟨rfl, rfl⟩
    · exact .inl hold

@[simp] theorem poll_enqueues (jobId : JobId) (generation ordinal : Nat) :
    (h.poll jobId generation ordinal).enqueues = h.enqueues := by
  unfold poll
  split <;> rfl

@[simp] theorem poll_timers (jobId : JobId) (generation ordinal : Nat) :
    (h.poll jobId generation ordinal).timers = h.timers := by
  unfold poll
  split <;> rfl

theorem mem_timers_schedule {call timer : Pending JobId}
    (htimer : timer ∈ (h.schedule call).timers) :
    timer ∈ h.timers ∨
      (timer.argument = call.argument ∧ timer.submission = call.submission) := by
  rcases List.mem_cons.mp htimer with rfl | hold
  · exact .inr ⟨rfl, rfl⟩
  · exact .inl hold

theorem stopCurrentRequest_timers_subset (h : Hook) : h.stopCurrentRequest.timers ⊆ h.timers :=
  fun _ htimer => List.mem_of_mem_filter htimer

/-- Every closure of a run belongs to a job that was enqueued with the text of its `submit`
    call. -/
structure Sourced (events : List HookEvent) (h : Hook) : Prop where
  enqueues : ∀ call ∈ h.enqueues, textOf events call.submission = some call.argument
  polls : ∀ call ∈ h.polls, Started events call
  timers : ∀ timer ∈ h.timers, Started events timer
  resolved : ∀ call nextJob, .pollResolved call nextJob ∈ events → Started events call

/-- A step that only drops closures. -/
theorem Sourced.shrink {past : List HookEvent} (hsourced : h.Sourced past)
    (henqueues : h'.enqueues ⊆ h.enqueues) (hpolls : h'.polls ⊆ h.polls)
    (htimers : h'.timers ⊆ h.timers)
    (hresolved : ∀ call nextJob, event = .pollResolved call nextJob → Started past call) :
    h'.Sourced (event :: past) where
  enqueues call hcall := textOf_cons (hsourced.enqueues call (henqueues hcall)) event
  polls call hcall := (hsourced.polls call (hpolls hcall)).cons event
  timers timer htimer := (hsourced.timers timer (htimers htimer)).cons event
  resolved call nextJob hmem := by
    rcases List.mem_cons.mp hmem with heq | hold
    · exact (hresolved call nextJob heq.symm).cons event
    · exact (hsourced.resolved call nextJob hold).cons event

theorem Sourced.poll {events : List HookEvent} (hsourced : h.Sourced events) {jobId : JobId}
    (generation : Nat) {ordinal : Nat}
    (hstarted : ∀ c : Pending JobId, c.argument = jobId → c.submission = ordinal →
      Started events c) :
    (h.poll jobId generation ordinal).Sourced events where
  enqueues := by
    rw [poll_enqueues]
    exact hsourced.enqueues
  polls call hcall := by
    rcases mem_polls_poll hcall with hold | ⟨hjob, hordinal⟩
    · exact hsourced.polls call hold
    · exact hstarted call hjob hordinal
  timers := by
    rw [poll_timers]
    exact hsourced.timers
  resolved := hsourced.resolved

theorem Sourced.schedule {events : List HookEvent} (hsourced : h.Sourced events)
    {call : Pending JobId} (hstarted : Started events call) : (h.schedule call).Sourced events where
  enqueues := hsourced.enqueues
  polls := hsourced.polls
  timers timer htimer := by
    rcases mem_timers_schedule htimer with hold | ⟨hjob, hsubmission⟩
    · exact hsourced.timers timer hold
    · rw [Started, hjob, hsubmission]
      exact hstarted
  resolved := hsourced.resolved

theorem sourced_step {past : List HookEvent} (hstep : h.Step event h')
    (hcount : h.submissions = submits past) (hsourced : h.Sourced past) :
    h'.Sourced (event :: past) := by
  cases hstep with
  | submit strategyText =>
      have hstopped : h.stopCurrentRequest.Sourced (.submit strategyText :: past) :=
        hsourced.shrink (.refl _) (.refl _) (stopCurrentRequest_timers_subset h)
          (by rintro _ _ ⟨⟩)
      refine ⟨fun call hcall => ?_, hstopped.polls, hstopped.timers, hstopped.resolved⟩
      rcases List.mem_cons.mp hcall with rfl | hold
      · exact if_pos (congrArg (· + 1) hcount)
      · exact hstopped.enqueues call hold
  | reset =>
      exact hsourced.shrink (.refl _) (.refl _) (stopCurrentRequest_timers_subset h)
        (by rintro _ _ ⟨⟩)
  | unmount =>
      exact hsourced.shrink (.refl _) (.refl _) (stopCurrentRequest_timers_subset h)
        (by rintro _ _ ⟨⟩)
  | @timerFired timer harmed =>
      refine Sourced.poll ?_ _ fun c hjob hsubmission => ?_
      · exact hsourced.shrink (.refl _) (.refl _) List.erase_subset (by rintro _ _ ⟨⟩)
      · rw [Started, hjob, hsubmission]
        exact (hsourced.timers timer harmed).cons _
  | @enqueueResolved call hawaited jobId createdAt =>
      by_cases hcurrent : call.generation = h.generationRef
      · rw [enqueueResolved_current hcurrent]
        refine Sourced.poll ?_ _ fun c hjob hsubmission => ?_
        · exact hsourced.shrink List.erase_subset (.refl _) (.refl _) (by rintro _ _ ⟨⟩)
        · refine ⟨call, createdAt, ?_, hsubmission.symm, ?_⟩
          · rw [hjob]
            exact List.mem_cons_self ..
          · rw [hsubmission]
            exact textOf_cons (hsourced.enqueues call hawaited) _
      · rw [enqueueResolved_stale hcurrent]
        exact hsourced.shrink List.erase_subset (.refl _) (.refl _) (by rintro _ _ ⟨⟩)
  | @enqueueRejected call hawaited error =>
      unfold enqueueRejected
      dsimp only
      split <;> exact hsourced.shrink List.erase_subset (.refl _) (.refl _) (by rintro _ _ ⟨⟩)
  | @pollResolved call hawaited nextJob =>
      have hstarted := hsourced.polls call hawaited
      have hresolved : ∀ other otherJob, HookEvent.pollResolved call nextJob =
          .pollResolved other otherJob → Started past other := by
        rintro _ _ ⟨⟩
        exact hstarted
      by_cases hcurrent : call.generation = h.generationRef
      · by_cases hterminal : nextJob.Terminal
        · rw [pollResolved_terminal hcurrent hterminal]
          exact hsourced.shrink (.refl _) List.erase_subset (.refl _) hresolved
        · rw [pollResolved_unfinished hcurrent hterminal]
          refine Sourced.schedule ?_ (hstarted.cons _)
          exact hsourced.shrink (.refl _) List.erase_subset (.refl _) hresolved
      · rw [pollResolved_stale hcurrent]
        exact hsourced.shrink (.refl _) List.erase_subset (.refl _) hresolved
  | @pollRejected call hawaited error =>
      unfold pollRejected
      dsimp only
      split
      · exact hsourced.shrink (.refl _) List.erase_subset (.refl _) (by rintro _ _ ⟨⟩)
      · refine Sourced.schedule ?_ ((hsourced.polls call hawaited).cons _)
        exact hsourced.shrink (.refl _) List.erase_subset (.refl _) (by rintro _ _ ⟨⟩)

end Jobs

theorem sourced_initial : Hook.initial.Sourced [] where
  enqueues _ hcall := absurd hcall List.not_mem_nil
  polls _ hcall := absurd hcall List.not_mem_nil
  timers _ htimer := absurd htimer List.not_mem_nil
  resolved _ _ hresolved := absurd hresolved List.not_mem_nil

theorem Run.sourced {events : List HookEvent} {h : Hook} (hrun : Run events h) :
    h.Sourced events :=
  Trace.invariant_of (P := fun events h => h.Sourced events) (fun _ _ => Run.submissions_eq)
    sourced_initial (fun _ _ _ _ hstep hcount hsourced => sourced_step hstep hcount hsourced) hrun

/-- A shown preview is the result of a job that was submitted with the text of the latest
    `submit`. -/
theorem Run.preview_eq_some {events : List HookEvent} {h : Hook} (hrun : Run events h)
    {preview : StrategyPreview} (hpreview : h.shown.preview = some preview) :
    ∃ text, latestText events = some text ∧ ResultOf events text preview := by
  rw [hrun.shown_eq] at hpreview
  obtain ⟨poll, response, hpolled, hlatest, hstatus, hresult⟩ := preview_of_shownBy hpreview
  obtain ⟨enqueue, createdAt, henqueued, hsubmission, htext⟩ :=
    hrun.sourced.resolved poll response hpolled
  rw [hlatest] at htext
  exact ⟨enqueue.argument, htext, enqueue, _, createdAt, poll, response, henqueued, rfl,
    hpolled, rfl, hsubmission.symm, hstatus, hresult⟩

end Hook

-- ============================================================================
-- The workspace
-- ============================================================================

/-- A name and the text of a strategy. -/
structure StrategyInput where
  name : String
  sourceText : String
deriving Repr

/-- `validateStrategyInput` of `strategy-validation.ts`, with the error message. -/
def validateStrategyInput (name sourceText : String) : Except String StrategyInput :=
  let normalizedName := JavaScript.trim name
  let normalizedSourceText := JavaScript.trim sourceText
  if normalizedName = "" ∨ normalizedSourceText = "" then
    .error "Enter both a strategy name and description."
  else if JavaScript.length normalizedName > 200 then
    .error "Strategy names must be 200 characters or fewer."
  else
    .ok ⟨normalizedName, normalizedSourceText⟩

/-- Whether a notice reports an error or a success. -/
inductive Tone where
  | error
  | success
deriving DecidableEq, Repr

/-- The notice over the workspace. -/
structure Notice where
  tone : Tone
  message : String
deriving Repr

/-- The payload of `saveConfirmedStrategy`. -/
structure ConfirmedStrategySaveRequest where
  name : String
  sourceText : String
  specification : Json
  defaultsApplied : Json
  assumptions : Json
  requiresConfirmation : Bool
  confirmed : Bool
deriving Repr

/-- The state variables that the handlers of a render read. -/
structure View where
  shown : Shown
  pendingName : String
  pendingSourceText : String
deriving Repr

/-- The state of the workspace, with the hook it uses. -/
structure Workspace where
  hook : Hook
  pendingName : String
  pendingSourceText : String
  previewConfirmed : Bool
  isSavingPreview : Bool
  notice : Option Notice
  /-- What the handlers on the page captured. -/
  rendered : View
  /-- Every `saveConfirmedStrategy` call so far, the latest first. -/
  saves : List ConfirmedStrategySaveRequest
  /-- The awaited `saveConfirmedStrategy` calls. -/
  awaitedSaves : Nat
  /-- The awaited `loadStrategies` calls of `handleSavePreview`. -/
  awaitedReloads : Nat
deriving Repr

namespace Workspace

/-- The first render. -/
def initial : Workspace where
  hook := .initial
  pendingName := ""
  pendingSourceText := ""
  previewConfirmed := false
  isSavingPreview := false
  notice := none
  rendered := ⟨.empty, "", ""⟩
  saves := []
  awaitedSaves := 0
  awaitedReloads := 0

/-- `handlePreview`, and the event that it raises in the hook.  A retry calls it with the
    pending name and text of the render. -/
def handlePreview (name sourceText : String) (w : Workspace) : Option HookEvent × Workspace :=
  match validateStrategyInput name sourceText with
  | .error message => (none, { w with notice := some ⟨.error, message⟩ })
  | .ok value =>
      (some (.submit value.sourceText),
        { w with
          notice := none
          pendingName := value.name
          pendingSourceText := value.sourceText
          previewConfirmed := false
          hook := w.hook.submit value.sourceText })

/-- `resetPreview(); setPreviewConfirmed(false)`: the cancel and edit buttons, and the end of
    a save. -/
def resetPreview (w : Workspace) : Workspace :=
  { w with hook := w.hook.reset, previewConfirmed := false }

/-- `invalidatePreview`, and the event that it raises in the hook.  An empty error message
    counts as no error. -/
def invalidatePreview (w : Workspace) : Option HookEvent × Workspace :=
  let shown := w.rendered.shown
  if shown.preview.isSome ∨ shown.job.isSome ∨ shown.error.getD "" ≠ "" then
    (some .reset, w.resetPreview)
  else
    (none, w)

/-- What `handleSavePreview` sends: the preview as shown, under the pending name and text. -/
def confirmedSave (view : View) (preview : StrategyPreview) : ConfirmedStrategySaveRequest where
  name := view.pendingName
  sourceText := view.pendingSourceText
  specification := preview.parsedStrategy.specification
  defaultsApplied := preview.parsedStrategy.defaultsApplied
  assumptions := preview.parsedStrategy.assumptions
  requiresConfirmation := preview.parsedStrategy.requiresConfirmation
  confirmed := true

/-- `handleSavePreview` up to its first `await`. -/
def handleSavePreview (w : Workspace) : Workspace :=
  match w.rendered.shown.preview with
  | none => w
  | some preview =>
      { w with
        isSavingPreview := true
        notice := none
        saves := confirmedSave w.rendered preview :: w.saves
        awaitedSaves := w.awaitedSaves + 1 }

/-- `handleSavePreview` after the save, up to the reload of the strategies. -/
def saved (w : Workspace) : Workspace :=
  { w.resetPreview with
    awaitedSaves := w.awaitedSaves - 1
    awaitedReloads := w.awaitedReloads + 1 }

/-- `handleSavePreview` after a save that threw. -/
def saveFailed (message : String) (w : Workspace) : Workspace :=
  { w with
    awaitedSaves := w.awaitedSaves - 1
    notice := some ⟨.error, message⟩
    isSavingPreview := false }

/-- `handleSavePreview` after the reload. -/
def reloaded (w : Workspace) : Workspace :=
  { w with
    awaitedReloads := w.awaitedReloads - 1
    notice := some ⟨.success, "Confirmed strategy saved."⟩
    isSavingPreview := false }

/-- A step, labelled with the event that it raises in the hook. -/
inductive Step : Workspace → Option HookEvent → Workspace → Prop
  | handlePreview {w : Workspace} (name sourceText : String) :
      Step w (w.handlePreview name sourceText).1 (w.handlePreview name sourceText).2
  | invalidatePreview {w : Workspace} : Step w w.invalidatePreview.1 w.invalidatePreview.2
  | cancel {w : Workspace} : Step w (some .reset) w.resetPreview
  | confirmationChange {w : Workspace} (confirmed : Bool) :
      Step w none { w with previewConfirmed := confirmed }
  | handleSavePreview {w : Workspace} : Step w none w.handleSavePreview
  | saved {w : Workspace} (hawaited : 0 < w.awaitedSaves) : Step w (some .reset) w.saved
  | saveFailed {w : Workspace} (hawaited : 0 < w.awaitedSaves) (message : String) :
      Step w none (w.saveFailed message)
  | reloaded {w : Workspace} (hawaited : 0 < w.awaitedReloads) : Step w none w.reloaded
  | continuation {w : Workspace} {event : HookEvent} {hook : Hook}
      (hcontinues : event.continues ≠ none) (hstep : w.hook.Step event hook) :
      Step w (some event) { w with hook := hook }
  | unmount {w : Workspace} : Step w (some .unmount) { w with hook := w.hook.unmount }
  | render {w : Workspace} :
      Step w none
        { w with rendered := ⟨w.hook.shown, w.pendingName, w.pendingSourceText⟩ }

/-- A run of the workspace, with the events of the hook, the latest first. -/
abbrev Run : List (Option HookEvent) → Workspace → Prop := Trace Step initial

variable {w w' : Workspace} {events : List (Option HookEvent)}

/-- What a step does to the hook. -/
def HookStep (hook : Hook) (event : Option HookEvent) (hook' : Hook) : Prop :=
  match event with
  | none => hook' = hook
  | some event => hook.Step event hook'

theorem step_hook {event : Option HookEvent} (hstep : w.Step event w') :
    HookStep w.hook event w'.hook := by
  cases hstep with
  | handlePreview name sourceText =>
      unfold handlePreview
      split
      · exact rfl
      · exact Hook.Step.submit _
  | invalidatePreview =>
      unfold invalidatePreview
      dsimp only
      split
      · exact Hook.Step.reset
      · exact rfl
  | cancel | saved hawaited => exact Hook.Step.reset
  | handleSavePreview =>
      unfold handleSavePreview
      split <;> exact rfl
  | continuation hcontinues hstep => exact hstep
  | unmount => exact Hook.Step.unmount
  | confirmationChange | saveFailed | reloaded | render => exact rfl

/-- A run of the workspace runs its hook. -/
theorem Run.hook (hrun : Run events w) : Hook.Run events.reduceOption w.hook :=
  Trace.project Hook.Step Workspace.hook
    (fun w event w' hstep => show HookStep w.hook (some event) w'.hook from step_hook hstep)
    (fun w w' hstep => show HookStep w.hook none w'.hook from step_hook hstep) hrun

-- ============================================================================
-- What is saved
-- ============================================================================

/-- The saved specification was parsed from the saved text. -/
def SavedResult (events : List HookEvent) (request : ConfirmedStrategySaveRequest) : Prop :=
  ∃ preview, ResultOf events request.sourceText preview ∧
    request.specification = preview.parsedStrategy.specification ∧
    request.defaultsApplied = preview.parsedStrategy.defaultsApplied ∧
    request.assumptions = preview.parsedStrategy.assumptions ∧
    request.requiresConfirmation = preview.parsedStrategy.requiresConfirmation

/-- The pending text is that of the latest `submit`; what is rendered and what was saved are
    results for their own texts. -/
structure Sourced (events : List HookEvent) (w : Workspace) : Prop where
  pending : ∀ text ∈ latestText events, text = w.pendingSourceText
  rendered : ∀ preview ∈ w.rendered.shown.preview,
    ResultOf events w.rendered.pendingSourceText preview
  saves : ∀ request ∈ w.saves, SavedResult events request

/-- A step that raises an event in the hook and leaves the page and the saves alone. -/
theorem Sourced.cons {past : List HookEvent} (hsourced : w.Sourced past) {event : HookEvent}
    (hpending : ∀ text ∈ latestText (event :: past), text = w'.pendingSourceText)
    (hrendered : w'.rendered = w.rendered) (hsaves : w'.saves = w.saves) :
    w'.Sourced (event :: past) where
  pending := hpending
  rendered preview hpreview := by
    rw [hrendered] at hpreview ⊢
    exact (hsourced.rendered preview hpreview).cons event
  saves request hrequest := by
    obtain ⟨preview, hresult, hfields⟩ := hsourced.saves request (hsaves ▸ hrequest)
    exact ⟨preview, hresult.cons event, hfields⟩

/-- The events that are not a `submit` keep the pending text. -/
theorem Sourced.pending_cons {past : List HookEvent} (hsourced : w.Sourced past)
    {event : HookEvent} (hne : ∀ strategyText, event ≠ .submit strategyText) :
    ∀ text ∈ latestText (event :: past), text = w.pendingSourceText := by
  rw [latestText_cons_of_ne past hne]
  exact hsourced.pending

/-- A preview on the page or in the hook is a result for the pending text. -/
theorem resultOf_pending {past : List HookEvent} (hrun : Hook.Run past w.hook)
    (hsourced : w.Sourced past) {preview : StrategyPreview}
    (hpreview : w.hook.shown.preview = some preview) :
    ResultOf past w.pendingSourceText preview := by
  obtain ⟨text, htext, hresult⟩ := hrun.preview_eq_some hpreview
  rw [← hsourced.pending text htext]
  exact hresult

theorem sourced_step {past : List (Option HookEvent)} {event : Option HookEvent}
    (hstep : w.Step event w') (hrun : Hook.Run past.reduceOption w.hook)
    (hsourced : w.Sourced past.reduceOption) : w'.Sourced (event :: past).reduceOption := by
  cases hstep with
  | handlePreview name sourceText =>
      unfold handlePreview
      split
      · exact ⟨hsourced.pending, hsourced.rendered, hsourced.saves⟩
      · refine hsourced.cons (fun text htext => ?_) rfl rfl
        rw [latestText_submit] at htext
        exact (Option.some.inj htext).symm
  | invalidatePreview =>
      unfold invalidatePreview
      dsimp only
      split
      · exact hsourced.cons (hsourced.pending_cons nofun) rfl rfl
      · exact hsourced
  | cancel | saved hawaited | unmount =>
      exact hsourced.cons (hsourced.pending_cons nofun) rfl rfl
  | continuation hcontinues hstep =>
      refine hsourced.cons (hsourced.pending_cons fun strategyText heq => ?_) rfl rfl
      rw [heq] at hcontinues
      exact hcontinues rfl
  | handleSavePreview =>
      unfold handleSavePreview
      split
      · exact hsourced
      · rename_i preview hpreview
        refine ⟨hsourced.pending, hsourced.rendered, fun request hrequest => ?_⟩
        rcases List.mem_cons.mp hrequest with rfl | hold
        · exact ⟨preview, hsourced.rendered preview hpreview, rfl, rfl, rfl, rfl⟩
        · exact hsourced.saves request hold
  | render =>
      exact ⟨hsourced.pending, fun preview hpreview => resultOf_pending hrun hsourced hpreview,
        hsourced.saves⟩
  | confirmationChange | saveFailed | reloaded =>
      exact ⟨hsourced.pending, hsourced.rendered, hsourced.saves⟩

theorem Run.sourced (hrun : Run events w) : w.Sourced events.reduceOption :=
  Trace.invariant_of (P := fun events w => w.Sourced events.reduceOption)
    (fun _ _ => Run.hook) ⟨nofun, nofun, nofun⟩
    (fun _ _ _ _ hstep hhook hsourced => sourced_step hstep hhook hsourced) hrun

end Workspace

-- ============================================================================
-- The result
-- ============================================================================

/-- What the hook shows is what the own continuations of its latest `submit` wrote; at most
    one poll or timer of the current generation is pending, and none follows a completed or
    failed response.  In the workspace, a preview is the result for the pending text, and
    what is saved was parsed from the text it is saved with. -/
theorem usePreviewJob_neverStale :
    (∀ (events : List HookEvent) (h : Hook), Hook.Run events h →
      h.shown = shownBy events ∧
      h.polls.countP h.isCurrent + h.timers.countP h.isCurrent ≤ 1 ∧
      ∀ (call : Pending JobId) (nextJob : PreviewJob), call ∈ h.polls →
        call.generation = h.generationRef → nextJob.Terminal →
        ∀ (later : List HookEvent) (h' : Hook),
          Trace Hook.Step (h.pollResolved call nextJob) later h' →
          h'.pollsOf call.generation = (h.pollResolved call nextJob).pollsOf call.generation) ∧
    ∀ (events : List (Option HookEvent)) (w : Workspace), Workspace.Run events w →
      (∀ preview, w.hook.shown.preview = some preview →
        ResultOf events.reduceOption w.pendingSourceText preview) ∧
      ∀ request ∈ w.saves, Workspace.SavedResult events.reduceOption request := by
  refine ⟨fun events h hrun => ⟨hrun.shown_eq, ?_, ?_⟩, fun events w hrun => ⟨?_, ?_⟩⟩
  · have houtstanding := hrun.tracked.outstanding_le
    rw [Hook.outstanding] at houtstanding
    omega
  · intro call nextJob hawaited hcurrent hterminal later h' hrest
    exact Hook.pollsOf_eq_of_quiet
      (Hook.quiet_of_terminal hrun.tracked hawaited hcurrent hterminal) hrest
  · intro preview hpreview
    exact Workspace.resultOf_pending hrun.hook hrun.sourced hpreview
  · exact hrun.sourced.saves

/-- A completed job whose preview was parsed from a text. -/
def completedJob (text : String) : PreviewJob :=
  { queuedJob "job-1" "2026-01-02" with
    status := .completed
    stage := .completed
    progress := 100
    previewResult := some ⟨⟨.object [], .array [], .array [], false, text, ""⟩, .null⟩ }

/-- A submitted text, its enqueued job and the only response of the job, rendered and saved. -/
def savedWorkspace : Workspace :=
  let w := (Workspace.initial.handlePreview "Ten" " Buy above 10. ").2
  let w := { w with hook := w.hook.enqueueResolved ⟨"Buy above 10.", 1, 0, 1⟩ "job-1" "2026-01-02" }
  let w := { w with hook := w.hook.pollResolved ⟨"job-1", 1, 1, 1⟩ (completedJob "Buy above 10.") }
  let w := { w with rendered := ⟨w.hook.shown, w.pendingName, w.pendingSourceText⟩ }
  w.handleSavePreview

/-- A submission whose preview arrived. -/
def savedEvents : List HookEvent :=
  [.pollResolved ⟨"job-1", 1, 1, 1⟩ (completedJob "Buy above 10."),
    .enqueueResolved ⟨"Buy above 10.", 1, 0, 1⟩ "job-1" "2026-01-02", .submit "Buy above 10."]

theorem savedWorkspace_run :
    Workspace.Run (none :: none :: savedEvents.map some) savedWorkspace := by
  have hsubmitted : Workspace.Run [some (.submit "Buy above 10.")]
      (Workspace.initial.handlePreview "Ten" " Buy above 10. ").2 :=
    Trace.nil.snoc (.handlePreview "Ten" " Buy above 10. ")
  have henqueued := hsubmitted.snoc (.continuation (by rintro ⟨⟩)
    (.enqueueResolved (List.mem_cons_self ..) "job-1" "2026-01-02"))
  have hpolled := henqueued.snoc (.continuation (by rintro ⟨⟩)
    (.pollResolved (List.mem_cons_self ..) (completedJob "Buy above 10.")))
  exact (hpolled.snoc .render).snoc .handleSavePreview

/-- The save of the run carries the text that its specification was parsed from. -/
theorem usePreviewJob_neverStale_saved :
    ∃ request, savedWorkspace.saves = [request] ∧ request.sourceText = "Buy above 10." ∧
      Workspace.SavedResult savedEvents request :=
  ⟨_, rfl, rfl, (usePreviewJob_neverStale.2 _ _ savedWorkspace_run).2 _
    (List.mem_singleton_self _)⟩

end Frontend
end TradingPlatform
