/-
  TradingPlatform.Frontend.PreviewJobRuns

  What holds in every state that a run of `usePreviewJob` reaches.

  - `shownBy` replays a run from its events alone: it keeps what the own
    continuations of the latest `submit` wrote, and nothing else.
  - `Hook.Tracked` is the invariant: a pending closure is of the current generation
    exactly if the latest `submit` created it and nothing stopped that `submit`
    since, and at most one closure is.
  - `Hook.shown_eq_shownBy` compares the two; `Hook.Quiet` is what a terminal
    response leaves behind.
-/

import TradingPlatform.Frontend.UsePreviewJob

namespace TradingPlatform
namespace Frontend

-- ============================================================================
-- What a run should show
-- ============================================================================

/-- The number of `submit` calls of a run. -/
def submits (events : List HookEvent) : Nat :=
  events.countP fun event => event matches .submit _

@[simp] theorem submits_submit (strategyText : String) (past : List HookEvent) :
    submits (.submit strategyText :: past) = submits past + 1 :=
  List.countP_cons_of_pos rfl

theorem submits_cons_of_ne {event : HookEvent} (past : List HookEvent)
    (hne : ∀ strategyText, event ≠ .submit strategyText) :
    submits (event :: past) = submits past := by
  cases event with
  | submit strategyText => exact absurd rfl (hne strategyText)
  | _ => rfl

/-- The `submit` call that the hook works for: the latest one, unless a reset or the unmount
    came after it. -/
def submissionOf : List HookEvent → Option Nat
  | [] => none
  | .submit _ :: past => some (submits past + 1)
  | .reset :: _ | .unmount :: _ => none
  | .timerFired _ :: past | .enqueueResolved .. :: past | .enqueueRejected .. :: past
  | .pollResolved .. :: past | .pollRejected .. :: past => submissionOf past

/-- The `submit` call whose continuation an event runs. -/
def HookEvent.continues : HookEvent → Option Nat
  | .submit _ | .reset | .unmount => none
  | .timerFired timer => some timer.submission
  | .enqueueResolved call .. | .enqueueRejected call _ => some call.submission
  | .pollResolved call _ | .pollRejected call _ => some call.submission

/-- The event runs a continuation of the `submit` call that the hook works for. -/
def HookEvent.IsOwn (past : List HookEvent) (event : HookEvent) : Prop :=
  event.continues ≠ none ∧ event.continues = submissionOf past

instance (past : List HookEvent) (event : HookEvent) : Decidable (event.IsOwn past) :=
  inferInstanceAs (Decidable (_ ∧ _))

/-- The event clears what is shown. -/
def HookEvent.Clears (event : HookEvent) : Prop :=
  (∃ strategyText, event = .submit strategyText) ∨ event = .reset

/-- What a continuation writes. -/
def HookEvent.write (shown : Shown) : HookEvent → Shown
  | .submit _ | .reset | .unmount | .timerFired _ => shown
  | .enqueueResolved _ jobId createdAt => { shown with job := some (queuedJob jobId createdAt) }
  | .enqueueRejected _ error | .pollRejected _ error =>
      { shown with error := some (getErrorMessage error) }
  | .pollResolved _ nextJob =>
      match nextJob.status with
      | .completed => ⟨some nextJob, nextJob.previewResult, none⟩
      | .failed => ⟨some nextJob, shown.preview,
          some (nextJob.error.getD "Unable to complete the strategy preview.")⟩
      | .queued | .running => ⟨some nextJob, shown.preview, none⟩

/-- Everything is cleared by a `submit` or a reset, and written by own continuations only. -/
def shownBy : List HookEvent → Shown
  | [] => .empty
  | .submit _ :: _ | .reset :: _ => .empty
  | event :: past => if event.IsOwn past then event.write (shownBy past) else shownBy past

-- ============================================================================
-- The outcomes of a continuation
-- ============================================================================

namespace Hook

section Outcome

variable {h : Hook}

theorem enqueueResolved_stale {call : Pending String} (hstale : call.generation ≠ h.generationRef)
    (jobId : JobId) (createdAt : String) :
    h.enqueueResolved call jobId createdAt = { h with enqueues := h.enqueues.erase call } :=
  if_pos hstale

theorem enqueueResolved_current {call : Pending String}
    (hcurrent : call.generation = h.generationRef) (jobId : JobId) (createdAt : String) :
    h.enqueueResolved call jobId createdAt =
      poll jobId call.generation call.submission
        { h with
          enqueues := h.enqueues.erase call
          shown := (HookEvent.enqueueResolved call jobId createdAt).write h.shown
          isSubmitting := false
          requestRef := none } :=
  if_neg (not_not.mpr hcurrent)

theorem enqueueRejected_stale {call : Pending String} (hstale : call.generation ≠ h.generationRef)
    (error : RequestError) :
    h.enqueueRejected call error = { h with enqueues := h.enqueues.erase call } :=
  if_pos (.inl hstale)

theorem enqueueRejected_current {call : Pending String}
    (hcurrent : call.generation = h.generationRef) (haborted : call.handle ∉ h.aborted)
    (error : RequestError) :
    h.enqueueRejected call error =
      { h with
        enqueues := h.enqueues.erase call
        shown := (HookEvent.enqueueRejected call error).write h.shown
        isSubmitting := false
        requestRef := none } :=
  if_neg (not_or.mpr ⟨not_not.mpr hcurrent, haborted⟩)

theorem pollResolved_stale {call : Pending JobId} (hstale : call.generation ≠ h.generationRef)
    (nextJob : PreviewJob) :
    h.pollResolved call nextJob = { h with polls := h.polls.erase call } :=
  if_pos hstale

theorem pollResolved_terminal {call : Pending JobId}
    (hcurrent : call.generation = h.generationRef) {nextJob : PreviewJob}
    (hterminal : nextJob.Terminal) :
    h.pollResolved call nextJob =
      { h with
        polls := h.polls.erase call
        shown := (HookEvent.pollResolved call nextJob).write h.shown
        requestRef := none } := by
  refine (if_neg (not_not.mpr hcurrent)).trans ?_
  rcases hterminal with hstatus | hstatus <;> simp [HookEvent.write, hstatus]

theorem pollResolved_unfinished {call : Pending JobId}
    (hcurrent : call.generation = h.generationRef) {nextJob : PreviewJob}
    (hunfinished : ¬ nextJob.Terminal) :
    h.pollResolved call nextJob =
      { h with
        polls := h.polls.erase call
        shown := (HookEvent.pollResolved call nextJob).write h.shown }.schedule call := by
  refine (if_neg (not_not.mpr hcurrent)).trans ?_
  cases hstatus : nextJob.status with
  | queued | running => simp [HookEvent.write, hstatus]
  | completed => exact absurd (.inl hstatus) hunfinished
  | failed => exact absurd (.inr hstatus) hunfinished

theorem pollRejected_stale {call : Pending JobId} (hstale : call.generation ≠ h.generationRef)
    (error : RequestError) :
    h.pollRejected call error = { h with polls := h.polls.erase call } :=
  if_pos (.inl hstale)

theorem pollRejected_current {call : Pending JobId}
    (hcurrent : call.generation = h.generationRef) (haborted : call.handle ∉ h.aborted)
    (error : RequestError) :
    h.pollRejected call error =
      { h with
        polls := h.polls.erase call
        shown := (HookEvent.pollRejected call error).write h.shown }.schedule call :=
  if_neg (not_or.mpr ⟨not_not.mpr hcurrent, haborted⟩)

@[simp] theorem poll_submissions (jobId : JobId) (generation ordinal : Nat) :
    (h.poll jobId generation ordinal).submissions = h.submissions := by
  unfold poll
  split <;> rfl

@[simp] theorem poll_shown (jobId : JobId) (generation ordinal : Nat) :
    (h.poll jobId generation ordinal).shown = h.shown := by
  unfold poll
  split <;> rfl

end Outcome

end Hook

-- ============================================================================
-- The invariant
-- ============================================================================

/-- A closure is of the current generation exactly if it belongs to the submission that the
    hook works for; then its signal is not aborted. -/
structure Pending.Tracked {α : Type} (submission : Option Nat) (h : Hook) (c : Pending α) :
    Prop where
  generation_le : c.generation ≤ h.generationRef
  submission_le : c.submission ≤ h.submissions
  current_iff : c.generation = h.generationRef ↔ submission = some c.submission
  not_aborted : c.generation = h.generationRef → c.handle ∉ h.aborted

namespace Hook

/-- The closure belongs to the current generation. -/
def isCurrent {α : Type} (h : Hook) (c : Pending α) : Bool := c.generation = h.generationRef

/-- The pending closures of the current generation. -/
def outstanding (h : Hook) : Nat :=
  h.enqueues.countP h.isCurrent + h.polls.countP h.isCurrent + h.timers.countP h.isCurrent

/-- What the refs of the hook say about its closures, at most one of them current. -/
structure Tracked (submission : Option Nat) (h : Hook) : Prop where
  enqueues : ∀ call ∈ h.enqueues, call.Tracked submission h
  polls : ∀ call ∈ h.polls, call.Tracked submission h
  timers : ∀ timer ∈ h.timers, timer.Tracked submission h
  timers_current : ∀ timer ∈ h.timers, timer.generation = h.generationRef
  timerRef_eq : ∀ timer ∈ h.timers, h.timerRef = some timer.handle
  outstanding_le : h.outstanding ≤ 1
  aborted_lt : ∀ handle ∈ h.aborted, handle < h.nextHandle
  requestRef_lt : ∀ handle ∈ h.requestRef, handle < h.nextHandle

theorem tracked_initial : initial.Tracked none := by
  constructor <;> simp [initial, outstanding]

-- ============================================================================
-- Stopping
-- ============================================================================

section Stop

variable {h : Hook} {submission submission' : Option Nat}

/-- No timer outlives `stopCurrentRequest`. -/
theorem Tracked.timers_stop (htracked : h.Tracked submission) :
    h.stopCurrentRequest.timers = [] := by
  refine List.filter_eq_nil_iff.mpr fun timer htimer => ?_
  simp [htracked.timerRef_eq timer htimer]

/-- A stopped closure is of an older generation for good. -/
theorem tracked_stop {α : Type} {c : Pending α} (hc : c.Tracked submission h) {h' : Hook}
    (hgeneration : h'.generationRef = h.generationRef + 1)
    (hsubmissions : h.submissions ≤ h'.submissions)
    (hother : submission' ≠ some c.submission) : c.Tracked submission' h' := by
  have hold : c.generation ≠ h'.generationRef := by
    have hle := hc.generation_le
    omega
  exact ⟨by have hle := hc.generation_le; omega, hc.submission_le.trans hsubmissions,
    ⟨fun heq => absurd heq hold, fun heq => absurd heq hother⟩, fun heq => absurd heq hold⟩

theorem countP_isCurrent_stop {α : Type} {l : List (Pending α)} {h' : Hook}
    (hl : ∀ c ∈ l, c.generation ≤ h.generationRef)
    (hgeneration : h'.generationRef = h.generationRef + 1) : l.countP h'.isCurrent = 0 := by
  refine List.countP_eq_zero.mpr fun c hc => ?_
  have hle := hl c hc
  simp [isCurrent]
  omega

theorem Tracked.stop (htracked : h.Tracked submission) :
    h.stopCurrentRequest.Tracked none where
  enqueues call hcall := tracked_stop (htracked.enqueues call hcall) rfl le_rfl nofun
  polls call hcall := tracked_stop (htracked.polls call hcall) rfl le_rfl nofun
  timers timer htimer := by
    rw [htracked.timers_stop] at htimer
    cases htimer
  timers_current timer htimer := by
    rw [htracked.timers_stop] at htimer
    cases htimer
  timerRef_eq timer htimer := by
    rw [htracked.timers_stop] at htimer
    cases htimer
  outstanding_le := by
    have henqueues : h.enqueues.countP h.stopCurrentRequest.isCurrent = 0 :=
      countP_isCurrent_stop (fun c hc => (htracked.enqueues c hc).generation_le) rfl
    have hpolls : h.polls.countP h.stopCurrentRequest.isCurrent = 0 :=
      countP_isCurrent_stop (fun c hc => (htracked.polls c hc).generation_le) rfl
    rw [outstanding, htracked.timers_stop]
    show h.enqueues.countP _ + h.polls.countP _ + 0 ≤ 1
    omega
  aborted_lt handle hhandle := by
    rcases List.mem_append.mp hhandle with hrequest | hold
    · exact htracked.requestRef_lt handle (Option.mem_toList.mp hrequest)
    · exact htracked.aborted_lt handle hold
  requestRef_lt := nofun

end Stop

-- ============================================================================
-- Continuing
-- ============================================================================

section Continue

variable {h : Hook} {submission : Option Nat}

theorem tracked_congr {α : Type} {c : Pending α} {h' : Hook} (hc : c.Tracked submission h)
    (hgeneration : h'.generationRef = h.generationRef)
    (hsubmissions : h'.submissions = h.submissions) (haborted : h'.aborted = h.aborted) :
    c.Tracked submission h' where
  generation_le := hgeneration ▸ hc.generation_le
  submission_le := hsubmissions ▸ hc.submission_le
  current_iff := hgeneration ▸ hc.current_iff
  not_aborted := by
    rw [hgeneration, haborted]
    exact hc.not_aborted

/-- State that is shown, and a request that ended. -/
theorem Tracked.display (htracked : h.Tracked submission) (shown : Shown) (isSubmitting : Bool)
    {requestRef : Option Nat} (hrequest : ∀ handle ∈ requestRef, handle < h.nextHandle) :
    { h with
      shown := shown
      isSubmitting := isSubmitting
      requestRef := requestRef : Hook }.Tracked submission where
  enqueues call hcall := tracked_congr (htracked.enqueues call hcall) rfl rfl rfl
  polls call hcall := tracked_congr (htracked.polls call hcall) rfl rfl rfl
  timers timer htimer := tracked_congr (htracked.timers timer htimer) rfl rfl rfl
  timers_current := htracked.timers_current
  timerRef_eq := htracked.timerRef_eq
  outstanding_le := htracked.outstanding_le
  aborted_lt := htracked.aborted_lt
  requestRef_lt := hrequest

/-- Closures that ran are no longer pending. -/
theorem Tracked.shrink (htracked : h.Tracked submission) {enqueues : List (Pending String)}
    {polls timers : List (Pending JobId)} {timerRef : Option Nat}
    (henqueues : enqueues.Sublist h.enqueues) (hpolls : polls.Sublist h.polls)
    (htimers : timers.Sublist h.timers)
    (htimerRef : ∀ timer ∈ timers, timerRef = some timer.handle) :
    { h with
      enqueues := enqueues
      polls := polls
      timers := timers
      timerRef := timerRef : Hook }.Tracked submission where
  enqueues call hcall :=
    tracked_congr (htracked.enqueues call (henqueues.subset hcall)) rfl rfl rfl
  polls call hcall := tracked_congr (htracked.polls call (hpolls.subset hcall)) rfl rfl rfl
  timers timer htimer :=
    tracked_congr (htracked.timers timer (htimers.subset htimer)) rfl rfl rfl
  timers_current timer htimer := htracked.timers_current timer (htimers.subset htimer)
  timerRef_eq := htimerRef
  outstanding_le := by
    have henqueues_le := henqueues.countP_le (p := h.isCurrent)
    have hpolls_le := hpolls.countP_le (p := h.isCurrent)
    have htimers_le := htimers.countP_le (p := h.isCurrent)
    have houtstanding := htracked.outstanding_le
    rw [outstanding] at houtstanding
    show enqueues.countP h.isCurrent + polls.countP h.isCurrent + timers.countP h.isCurrent ≤ 1
    omega
  aborted_lt := htracked.aborted_lt
  requestRef_lt := htracked.requestRef_lt

/-- A closure of the current generation runs: it was the only one of its list. -/
theorem countP_erase_add_one {α : Type} [DecidableEq α] {l : List (Pending α)} {c : Pending α}
    (hc : c ∈ l) (hcurrent : c.generation = h.generationRef) :
    (l.erase c).countP h.isCurrent + 1 = l.countP h.isCurrent := by
  have hcounted : h.isCurrent c = true := decide_eq_true hcurrent
  rw [(List.perm_cons_erase hc).countP_eq, List.countP_cons_of_pos hcounted]

/-- With nothing of the current generation pending, no timer is armed. -/
theorem Tracked.timers_eq_nil (htracked : h.Tracked submission) (hidle : h.outstanding = 0) :
    h.timers = [] := by
  refine List.eq_nil_iff_forall_not_mem.mpr fun timer htimer => ?_
  have hnone : h.timers.countP h.isCurrent = 0 := by
    rw [outstanding] at hidle
    omega
  exact List.countP_eq_zero.mp hnone timer htimer
    (decide_eq_true (htracked.timers_current timer htimer))

/-- A poll of the current generation starts while nothing of it is pending. -/
theorem Tracked.poll (htracked : h.Tracked submission) (jobId : JobId) {generation ordinal : Nat}
    (hidle : generation = h.generationRef → h.outstanding = 0)
    (hsubmission : generation = h.generationRef → submission = some ordinal)
    (hordinal : ordinal ≤ h.submissions) :
    (h.poll jobId generation ordinal).Tracked submission := by
  unfold Hook.poll
  split
  · exact htracked
  · rename_i hgeneration
    have hcurrent : generation = h.generationRef := not_not.mp hgeneration
    have hnone := hidle hcurrent
    exact {
      enqueues := fun call hcall => tracked_congr (htracked.enqueues call hcall) rfl rfl rfl
      polls := fun call hcall => by
        rcases List.mem_cons.mp hcall with rfl | hold
        · exact ⟨hcurrent.le, hordinal, iff_of_true hcurrent (hsubmission hcurrent),
            fun _ haborted => absurd (htracked.aborted_lt _ haborted) (lt_irrefl _)⟩
        · exact tracked_congr (htracked.polls call hold) rfl rfl rfl
      timers := fun timer htimer => tracked_congr (htracked.timers timer htimer) rfl rfl rfl
      timers_current := htracked.timers_current
      timerRef_eq := htracked.timerRef_eq
      outstanding_le := by
        rw [outstanding] at hnone
        show h.enqueues.countP h.isCurrent + List.countP h.isCurrent (_ :: h.polls) +
          h.timers.countP h.isCurrent ≤ 1
        rw [List.countP_cons]
        split <;> omega
      aborted_lt := fun handle hhandle => Nat.lt_succ_of_lt (htracked.aborted_lt handle hhandle)
      requestRef_lt := fun handle hhandle => by
        cases hhandle
        exact Nat.lt_succ_self _ }

/-- A poll of the current generation ends with a timer for the next one. -/
theorem Tracked.schedule (htracked : h.Tracked submission) (hidle : h.outstanding = 0)
    {call : Pending JobId} (hcall : call.Tracked submission h)
    (hcurrent : call.generation = h.generationRef) :
    (h.schedule call).Tracked submission where
  enqueues c hc := tracked_congr (htracked.enqueues c hc) rfl rfl rfl
  polls c hc := tracked_congr (htracked.polls c hc) rfl rfl rfl
  timers timer htimer := by
    rw [Hook.schedule, htracked.timers_eq_nil hidle] at htimer
    obtain rfl := List.mem_singleton.mp htimer
    exact ⟨hcall.generation_le, hcall.submission_le, hcall.current_iff,
      fun _ haborted => absurd (htracked.aborted_lt _ haborted) (lt_irrefl _)⟩
  timers_current timer htimer := by
    rw [Hook.schedule, htracked.timers_eq_nil hidle] at htimer
    obtain rfl := List.mem_singleton.mp htimer
    exact hcurrent
  timerRef_eq timer htimer := by
    rw [Hook.schedule, htracked.timers_eq_nil hidle] at htimer
    obtain rfl := List.mem_singleton.mp htimer
    rfl
  outstanding_le := by
    rw [outstanding] at hidle
    show h.enqueues.countP h.isCurrent + h.polls.countP h.isCurrent +
      List.countP h.isCurrent (_ :: h.timers) ≤ 1
    rw [List.countP_cons]
    split <;> omega
  aborted_lt handle hhandle := Nat.lt_succ_of_lt (htracked.aborted_lt handle hhandle)
  requestRef_lt := nofun

end Continue

-- ============================================================================
-- Steps
-- ============================================================================

section Step

variable {h h' : Hook} {submission : Option Nat} {event : HookEvent} {past : List HookEvent}

theorem Tracked.submit (htracked : h.Tracked submission) (strategyText : String) :
    (h.submit strategyText).Tracked (some (h.submissions + 1)) where
  enqueues call hcall := by
    rcases List.mem_cons.mp hcall with rfl | hold
    · refine ⟨le_rfl, le_rfl, iff_of_true rfl rfl, fun _ haborted => ?_⟩
      exact absurd (htracked.stop.aborted_lt _ haborted) (lt_irrefl _)
    · have hle := (htracked.enqueues call hold).submission_le
      exact tracked_stop (htracked.enqueues call hold) rfl (Nat.le_succ _) (by simp; omega)
  polls call hcall := by
    have hle := (htracked.polls call hcall).submission_le
    exact tracked_stop (htracked.polls call hcall) rfl (Nat.le_succ _) (by simp; omega)
  timers timer htimer := by
    rw [show (h.submit strategyText).timers = [] from htracked.timers_stop] at htimer
    cases htimer
  timers_current timer htimer := by
    rw [show (h.submit strategyText).timers = [] from htracked.timers_stop] at htimer
    cases htimer
  timerRef_eq timer htimer := by
    rw [show (h.submit strategyText).timers = [] from htracked.timers_stop] at htimer
    cases htimer
  outstanding_le := by
    have henqueues : h.enqueues.countP (h.submit strategyText).isCurrent = 0 :=
      countP_isCurrent_stop (fun c hc => (htracked.enqueues c hc).generation_le) rfl
    have hpolls : h.polls.countP (h.submit strategyText).isCurrent = 0 :=
      countP_isCurrent_stop (fun c hc => (htracked.polls c hc).generation_le) rfl
    have htimers : (h.submit strategyText).timers = [] := htracked.timers_stop
    rw [outstanding, htimers]
    show List.countP _ (_ :: h.enqueues) + h.polls.countP _ + 0 ≤ 1
    rw [List.countP_cons]
    split <;> omega
  aborted_lt handle hhandle := Nat.lt_succ_of_lt (htracked.stop.aborted_lt handle hhandle)
  requestRef_lt handle hhandle := by
    cases hhandle
    exact Nat.lt_succ_self _

theorem submissions_step (hstep : h.Step event h') (hcount : h.submissions = submits past) :
    h'.submissions = submits (event :: past) := by
  cases hstep with
  | submit strategyText =>
      rw [submits_submit, ← hcount]
      rfl
  | reset => exact hcount
  | unmount => exact hcount
  | timerFired harmed => exact (poll_submissions _ _ _).trans hcount
  | @enqueueResolved call hawaited jobId createdAt =>
      by_cases hgeneration : call.generation = h.generationRef
      · rw [enqueueResolved_current hgeneration, poll_submissions]
        exact hcount
      · rw [enqueueResolved_stale hgeneration]
        exact hcount
  | enqueueRejected hawaited error =>
      unfold enqueueRejected
      exact (apply_ite submissions _ _ _).trans ((ite_self _).trans hcount)
  | @pollResolved call hawaited nextJob =>
      by_cases hgeneration : call.generation = h.generationRef
      · by_cases hterminal : nextJob.Terminal
        · rw [pollResolved_terminal hgeneration hterminal]
          exact hcount
        · rw [pollResolved_unfinished hgeneration hterminal]
          exact hcount
      · rw [pollResolved_stale hgeneration]
        exact hcount
  | pollRejected hawaited error =>
      unfold pollRejected
      exact (apply_ite submissions _ _ _).trans ((ite_self _).trans hcount)

theorem tracked_step (hstep : h.Step event h') (hcount : h.submissions = submits past)
    (htracked : h.Tracked (submissionOf past)) : h'.Tracked (submissionOf (event :: past)) := by
  have houtstanding := htracked.outstanding_le
  rw [outstanding] at houtstanding
  cases hstep with
  | submit strategyText =>
      rw [submissionOf, ← hcount]
      exact htracked.submit strategyText
  | reset => exact htracked.stop.display .empty false nofun
  | unmount => exact htracked.stop
  | @timerFired timer harmed =>
      have htimer := htracked.timers timer harmed
      have hcurrent := htracked.timers_current timer harmed
      have hless := countP_erase_add_one harmed hcurrent
      have hidle : h.enqueues.countP h.isCurrent + h.polls.countP h.isCurrent +
          (h.timers.erase timer).countP h.isCurrent = 0 := by omega
      -- the only armed timer was the one that fired
      have hnone : ∀ other ∈ h.timers.erase timer, none = some other.handle := by
        intro other hother
        have hzero : (h.timers.erase timer).countP h.isCurrent = 0 := by omega
        exact absurd (decide_eq_true (htracked.timers_current other
          (List.mem_of_mem_erase hother))) (List.countP_eq_zero.mp hzero other hother)
      have hshrunk := htracked.shrink (.refl _) (.refl _) List.erase_sublist hnone
      exact hshrunk.poll _ (fun _ => hidle) (fun _ => htimer.current_iff.mp hcurrent)
        htimer.submission_le
  | @enqueueResolved call hawaited jobId createdAt =>
      have hcall := htracked.enqueues call hawaited
      have hshrunk := htracked.shrink (List.erase_sublist (a := call)) (.refl _) (.refl _)
        htracked.timerRef_eq
      by_cases hcurrent : call.generation = h.generationRef
      · have hless := countP_erase_add_one hawaited hcurrent
        have hidle : (h.enqueues.erase call).countP h.isCurrent + h.polls.countP h.isCurrent +
            h.timers.countP h.isCurrent = 0 := by omega
        rw [enqueueResolved_current hcurrent]
        refine (hshrunk.display _ false ?_).poll _ (fun _ => hidle)
          (fun _ => hcall.current_iff.mp hcurrent) hcall.submission_le
        nofun
      · rw [enqueueResolved_stale hcurrent]
        exact hshrunk
  | @enqueueRejected call hawaited error =>
      have hcall := htracked.enqueues call hawaited
      have hshrunk := htracked.shrink (List.erase_sublist (a := call)) (.refl _) (.refl _)
        htracked.timerRef_eq
      by_cases hcurrent : call.generation = h.generationRef
      · rw [enqueueRejected_current hcurrent (hcall.not_aborted hcurrent)]
        exact hshrunk.display _ false nofun
      · rw [enqueueRejected_stale hcurrent]
        exact hshrunk
  | @pollResolved call hawaited nextJob =>
      have hcall := htracked.polls call hawaited
      have hshrunk := htracked.shrink (.refl _) (List.erase_sublist (a := call)) (.refl _)
        htracked.timerRef_eq
      by_cases hcurrent : call.generation = h.generationRef
      · have hless := countP_erase_add_one hawaited hcurrent
        have hidle : h.enqueues.countP h.isCurrent + (h.polls.erase call).countP h.isCurrent +
            h.timers.countP h.isCurrent = 0 := by omega
        by_cases hterminal : nextJob.Terminal
        · rw [pollResolved_terminal hcurrent hterminal]
          exact hshrunk.display _ _ nofun
        · rw [pollResolved_unfinished hcurrent hterminal]
          exact (hshrunk.display _ _ hshrunk.requestRef_lt).schedule hidle
            (tracked_congr hcall rfl rfl rfl) hcurrent
      · rw [pollResolved_stale hcurrent]
        exact hshrunk
  | @pollRejected call hawaited error =>
      have hcall := htracked.polls call hawaited
      have hshrunk := htracked.shrink (.refl _) (List.erase_sublist (a := call)) (.refl _)
        htracked.timerRef_eq
      by_cases hcurrent : call.generation = h.generationRef
      · have hless := countP_erase_add_one hawaited hcurrent
        have hidle : h.enqueues.countP h.isCurrent + (h.polls.erase call).countP h.isCurrent +
            h.timers.countP h.isCurrent = 0 := by omega
        rw [pollRejected_current hcurrent (hcall.not_aborted hcurrent)]
        exact (hshrunk.display _ _ hshrunk.requestRef_lt).schedule hidle
          (tracked_congr hcall rfl rfl rfl) hcurrent
      · rw [pollRejected_stale hcurrent]
        exact hshrunk

variable (event) in
/-- A continuation of the current generation is an own one, and no other is. -/
theorem isOwn_iff {α : Type} {c : Pending α} (hc : c.Tracked (submissionOf past) h)
    (hcontinues : event.continues = some c.submission) :
    event.IsOwn past ↔ c.generation = h.generationRef := by
  rw [HookEvent.IsOwn, hcontinues, hc.current_iff]
  exact ⟨fun hown => hown.2.symm, fun hown => ⟨nofun, hown.symm⟩⟩

theorem shownBy_own (hown : event.IsOwn past) :
    shownBy (event :: past) = event.write (shownBy past) := by
  cases event with
  | submit | reset => exact absurd rfl hown.1
  | _ => exact if_pos hown

theorem shownBy_other (hother : ¬ event.IsOwn past) (hclears : ¬ event.Clears) :
    shownBy (event :: past) = shownBy past := by
  cases event with
  | submit => exact absurd (.inl ⟨_, rfl⟩) hclears
  | reset => exact absurd (.inr rfl) hclears
  | _ => exact if_neg hother

theorem shown_step (hstep : h.Step event h') (htracked : h.Tracked (submissionOf past))
    (hshown : h.shown = shownBy past) : h'.shown = shownBy (event :: past) := by
  cases hstep with
  | submit strategyText => rfl
  | reset => rfl
  | unmount => exact hshown.trans (ite_self _).symm
  | timerFired harmed => exact (poll_shown _ _ _).trans (hshown.trans (ite_self _).symm)
  | @enqueueResolved call hawaited jobId createdAt =>
      have hown := isOwn_iff (.enqueueResolved call jobId createdAt)
        (htracked.enqueues call hawaited) rfl
      by_cases hcurrent : call.generation = h.generationRef
      · rw [enqueueResolved_current hcurrent, poll_shown, shownBy_own (hown.mpr hcurrent), hshown]
      · rw [enqueueResolved_stale hcurrent, shownBy_other (mt hown.mp hcurrent) nofun, hshown]
  | @enqueueRejected call hawaited error =>
      have hcall := htracked.enqueues call hawaited
      have hown := isOwn_iff (.enqueueRejected call error) hcall rfl
      by_cases hcurrent : call.generation = h.generationRef
      · rw [enqueueRejected_current hcurrent (hcall.not_aborted hcurrent),
          shownBy_own (hown.mpr hcurrent), hshown]
      · rw [enqueueRejected_stale hcurrent, shownBy_other (mt hown.mp hcurrent) nofun, hshown]
  | @pollResolved call hawaited nextJob =>
      have hown := isOwn_iff (.pollResolved call nextJob)
        (htracked.polls call hawaited) rfl
      by_cases hcurrent : call.generation = h.generationRef
      · rw [shownBy_own (hown.mpr hcurrent), ← hshown]
        by_cases hterminal : nextJob.Terminal
        · rw [pollResolved_terminal hcurrent hterminal]
        · rw [pollResolved_unfinished hcurrent hterminal, schedule]
      · rw [pollResolved_stale hcurrent, shownBy_other (mt hown.mp hcurrent) nofun, hshown]
  | @pollRejected call hawaited error =>
      have hcall := htracked.polls call hawaited
      have hown := isOwn_iff (.pollRejected call error) hcall rfl
      by_cases hcurrent : call.generation = h.generationRef
      · rw [pollRejected_current hcurrent (hcall.not_aborted hcurrent), schedule,
          shownBy_own (hown.mpr hcurrent), hshown]
      · rw [pollRejected_stale hcurrent, shownBy_other (mt hown.mp hcurrent) nofun, hshown]

end Step

-- ============================================================================
-- After a terminal response
-- ============================================================================

/-- The `getPreviewJob` calls of a generation so far. -/
def pollsOf (generation : Nat) (h : Hook) : List (Pending JobId) :=
  h.startedPolls.filter fun call => call.generation = generation

/-- No closure of the generation is pending, and none will be created. -/
structure Quiet (generation : Nat) (h : Hook) : Prop where
  generation_le : generation ≤ h.generationRef
  enqueues : ∀ call ∈ h.enqueues, call.generation ≠ generation
  polls : ∀ call ∈ h.polls, call.generation ≠ generation
  timers : ∀ timer ∈ h.timers, timer.generation ≠ generation

section Quiet

variable {h h' : Hook} {event : HookEvent} {generation : Nat}

theorem Quiet.stop (hquiet : h.Quiet generation) : h.stopCurrentRequest.Quiet generation where
  generation_le := Nat.le_succ_of_le hquiet.generation_le
  enqueues := hquiet.enqueues
  polls := hquiet.polls
  timers timer htimer := hquiet.timers timer (List.mem_of_mem_filter htimer)

/-- Closures that ran, and writes to the other variables. -/
theorem Quiet.shrink (hquiet : h.Quiet generation) (href : h'.generationRef = h.generationRef)
    (henqueues : h'.enqueues ⊆ h.enqueues) (hpolls : h'.polls ⊆ h.polls)
    (htimers : h'.timers ⊆ h.timers) : h'.Quiet generation where
  generation_le := href ▸ hquiet.generation_le
  enqueues call hcall := hquiet.enqueues call (henqueues hcall)
  polls call hcall := hquiet.polls call (hpolls hcall)
  timers timer htimer := hquiet.timers timer (htimers htimer)

theorem Quiet.poll (hquiet : h.Quiet generation) (jobId : JobId) {other : Nat}
    (hother : other ≠ generation) (ordinal : Nat) :
    (h.poll jobId other ordinal).Quiet generation ∧
      (h.poll jobId other ordinal).pollsOf generation = h.pollsOf generation := by
  unfold Hook.poll
  split
  · exact ⟨hquiet, rfl⟩
  · refine ⟨⟨hquiet.generation_le, hquiet.enqueues, fun call hcall => ?_, hquiet.timers⟩, ?_⟩
    · rcases List.mem_cons.mp hcall with rfl | hold
      · exact hother
      · exact hquiet.polls call hold
    · exact List.filter_cons_of_neg (by simpa using hother)

theorem Quiet.schedule (hquiet : h.Quiet generation) {call : Pending JobId}
    (hother : call.generation ≠ generation) : (h.schedule call).Quiet generation where
  generation_le := hquiet.generation_le
  enqueues := hquiet.enqueues
  polls := hquiet.polls
  timers timer htimer := by
    rcases List.mem_cons.mp htimer with rfl | hold
    · exact hother
    · exact hquiet.timers timer hold

theorem quiet_step (hstep : h.Step event h') (hquiet : h.Quiet generation) :
    h'.Quiet generation ∧ h'.pollsOf generation = h.pollsOf generation := by
  cases hstep with
  | submit strategyText =>
      refine ⟨⟨hquiet.stop.generation_le, fun call hcall => ?_, hquiet.polls,
        hquiet.stop.timers⟩, rfl⟩
      rcases List.mem_cons.mp hcall with rfl | hold
      · exact (Nat.lt_succ_of_le hquiet.generation_le).ne'
      · exact hquiet.enqueues call hold
  | reset =>
      have hstopped := hquiet.stop
      exact ⟨⟨hstopped.generation_le, hstopped.enqueues, hstopped.polls, hstopped.timers⟩, rfl⟩
  | unmount => exact ⟨hquiet.stop, rfl⟩
  | @timerFired timer harmed =>
      have hfired : Quiet generation { h with timers := h.timers.erase timer, timerRef := none } :=
        hquiet.shrink rfl (.refl _) (.refl _) List.erase_subset
      exact hfired.poll _ (hquiet.timers timer harmed) _
  | @enqueueResolved call hawaited jobId createdAt =>
      by_cases hcurrent : call.generation = h.generationRef
      · rw [enqueueResolved_current hcurrent]
        refine Quiet.poll ?_ _ (hquiet.enqueues call hawaited) _
        exact hquiet.shrink rfl List.erase_subset (.refl _) (.refl _)
      · rw [enqueueResolved_stale hcurrent]
        exact ⟨hquiet.shrink rfl List.erase_subset (.refl _) (.refl _), rfl⟩
  | @enqueueRejected call hawaited error =>
      unfold enqueueRejected
      dsimp only
      split <;> exact ⟨hquiet.shrink rfl List.erase_subset (.refl _) (.refl _), rfl⟩
  | @pollResolved call hawaited nextJob =>
      by_cases hcurrent : call.generation = h.generationRef
      · by_cases hterminal : nextJob.Terminal
        · rw [pollResolved_terminal hcurrent hterminal]
          exact ⟨hquiet.shrink rfl (.refl _) List.erase_subset (.refl _), rfl⟩
        · rw [pollResolved_unfinished hcurrent hterminal]
          refine ⟨Quiet.schedule ?_ (hquiet.polls call hawaited), rfl⟩
          exact hquiet.shrink rfl (.refl _) List.erase_subset (.refl _)
      · rw [pollResolved_stale hcurrent]
        exact ⟨hquiet.shrink rfl (.refl _) List.erase_subset (.refl _), rfl⟩
  | @pollRejected call hawaited error =>
      unfold pollRejected
      dsimp only
      split
      · exact ⟨hquiet.shrink rfl (.refl _) List.erase_subset (.refl _), rfl⟩
      · refine ⟨Quiet.schedule ?_ (hquiet.polls call hawaited), rfl⟩
        exact hquiet.shrink rfl (.refl _) List.erase_subset (.refl _)

/-- A processed completed or failed response leaves its generation quiet. -/
theorem quiet_of_terminal {submission : Option Nat} (htracked : h.Tracked submission)
    {call : Pending JobId} (hawaited : call ∈ h.polls)
    (hcurrent : call.generation = h.generationRef) {nextJob : PreviewJob}
    (hterminal : nextJob.Terminal) : (h.pollResolved call nextJob).Quiet call.generation := by
  have hless := countP_erase_add_one hawaited hcurrent
  have houtstanding := htracked.outstanding_le
  rw [outstanding] at houtstanding
  have hother : ∀ {α : Type} {l : List (Pending α)}, l.countP h.isCurrent = 0 →
      ∀ c ∈ l, c.generation ≠ call.generation := by
    intro α l hnone c hc heq
    exact List.countP_eq_zero.mp hnone c hc (decide_eq_true (heq.trans hcurrent))
  have henqueues := hother (l := h.enqueues) (by omega)
  have hpolls := hother (l := h.polls.erase call) (by omega)
  have htimers := hother (l := h.timers) (by omega)
  rw [pollResolved_terminal hcurrent hterminal]
  exact ⟨hcurrent.le, henqueues, hpolls, htimers⟩

end Quiet

-- ============================================================================
-- Runs
-- ============================================================================

section Run

variable {h h' : Hook} {events later : List HookEvent}

theorem Run.submissions_eq (hrun : Run events h) : h.submissions = submits events :=
  Trace.invariant (P := fun events h => h.submissions = submits events) rfl
    (fun _ _ _ _ hstep hcount => submissions_step hstep hcount) hrun

theorem Run.tracked (hrun : Run events h) : h.Tracked (submissionOf events) :=
  Trace.invariant_of (P := fun events h => h.Tracked (submissionOf events))
    (fun _ _ => Run.submissions_eq) tracked_initial
    (fun _ _ _ _ hstep hcount htracked => tracked_step hstep hcount htracked) hrun

/-- A run shows what the own continuations of its latest `submit` wrote. -/
theorem Run.shown_eq (hrun : Run events h) : h.shown = shownBy events :=
  Trace.invariant_of (P := fun events h => h.shown = shownBy events)
    (fun _ _ => Run.tracked) rfl
    (fun _ _ _ _ hstep htracked hshown => shown_step hstep htracked hshown) hrun

/-- From a quiet state on, no poll of the generation starts. -/
theorem pollsOf_eq_of_quiet {generation : Nat} (hquiet : h.Quiet generation)
    (hrest : Trace Step h later h') : h'.pollsOf generation = h.pollsOf generation :=
  (Trace.invariant (P := fun _ h' => h'.Quiet generation ∧
      h'.pollsOf generation = h.pollsOf generation) ⟨hquiet, rfl⟩
    (fun _ _ _ _ hstep ih =>
      ⟨(quiet_step hstep ih.1).1, (quiet_step hstep ih.1).2.trans ih.2⟩) hrest).2

end Run

end Hook
end Frontend
end TradingPlatform
