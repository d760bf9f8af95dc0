/-
  TradingPlatform.Frontend.ConfirmationGuard

  The workspace as its page lets it be used: `StrategyReview` shows a checkbox
  while a preview requires confirmation, and its save button is disabled until
  the box is checked and while a save is under way.

  React flushes the updates of a click, a change or a submit before it handles
  the next one, so after such an event the page shows the state.  What a
  continuation sets is shown by a later render; until then the page is stale.

  - `confirmedFor` replays the events: the preview under which the box was last
    checked, unless something withdrew it since.
  - `Hook.Settled` is what keeps a new preview away from an old confirmation: once
    a preview is there, only a new submission can bring another one.
  - `saves_confirmed` is the result.
-/

import TradingPlatform.Frontend.StrategyWorkspace

namespace TradingPlatform
namespace Frontend

namespace Hook

-- ============================================================================
-- A hook that waits for nothing
-- ============================================================================

/-- Nothing of the current generation is pending. -/
def Settled (h : Hook) : Prop := h.Quiet h.generationRef

section Settled

variable {h h' : Hook} {submission : Option Nat} {event : HookEvent}

theorem Tracked.settled_stop (htracked : h.Tracked submission) : h.stopCurrentRequest.Settled where
  generation_le := le_rfl
  enqueues call hcall :=
    Nat.ne_of_lt (Nat.lt_succ_of_le (htracked.enqueues call hcall).generation_le)
  polls call hcall := Nat.ne_of_lt (Nat.lt_succ_of_le (htracked.polls call hcall).generation_le)
  timers timer htimer := by
    rw [htracked.timers_stop] at htimer
    cases htimer

theorem Tracked.settled_reset (htracked : h.Tracked submission) : h.reset.Settled :=
  let hstopped := htracked.settled_stop
  ⟨le_rfl, hstopped.enqueues, hstopped.polls, hstopped.timers⟩

/-- A continuation of a settled hook is a stale one: it shows nothing and starts nothing. -/
theorem Settled.continuation (hsettled : h.Settled) (hstep : h.Step event h')
    (hcontinues : event.continues ≠ none) : h'.Settled ∧ h'.shown = h.shown := by
  have hnext := (quiet_step hstep hsettled).1
  cases hstep with
  | submit strategyText => exact absurd rfl hcontinues
  | reset => exact absurd rfl hcontinues
  | unmount => exact absurd rfl hcontinues
  | @timerFired timer harmed =>
      have hstale : timer.generation ≠ h.generationRef := hsettled.timers timer harmed
      have hfired : h.timerFired timer =
          { h with timers := h.timers.erase timer, timerRef := none } := if_pos hstale
      rw [hfired] at hnext ⊢
      exact ⟨hnext, rfl⟩
  | @enqueueResolved call hawaited jobId createdAt =>
      rw [enqueueResolved_stale (hsettled.enqueues call hawaited)] at hnext ⊢
      exact ⟨hnext, rfl⟩
  | @enqueueRejected call hawaited error =>
      rw [enqueueRejected_stale (hsettled.enqueues call hawaited)] at hnext ⊢
      exact ⟨hnext, rfl⟩
  | @pollResolved call hawaited nextJob =>
      rw [pollResolved_stale (hsettled.polls call hawaited)] at hnext ⊢
      exact ⟨hnext, rfl⟩
  | @pollRejected call hawaited error =>
      rw [pollRejected_stale (hsettled.polls call hawaited)] at hnext ⊢
      exact ⟨hnext, rfl⟩

/-- Whatever shows another preview was the last thing that the hook waited for. -/
theorem Tracked.continuation (htracked : h.Tracked submission) (hstep : h.Step event h')
    (hcontinues : event.continues ≠ none) :
    h'.shown.preview = h.shown.preview ∨ h'.Settled := by
  cases hstep with
  | submit strategyText => exact absurd rfl hcontinues
  | reset => exact absurd rfl hcontinues
  | unmount => exact absurd rfl hcontinues
  | timerFired harmed => exact .inl (congrArg Shown.preview (poll_shown _ _ _))
  | @enqueueResolved call hawaited jobId createdAt =>
      left
      by_cases hcurrent : call.generation = h.generationRef
      · rw [enqueueResolved_current hcurrent, poll_shown]
        rfl
      · rw [enqueueResolved_stale hcurrent]
  | @enqueueRejected call hawaited error =>
      left
      unfold enqueueRejected
      exact (apply_ite (fun g : Hook => g.shown.preview) _ _ _).trans (ite_self _)
  | @pollResolved call hawaited nextJob =>
      by_cases hcurrent : call.generation = h.generationRef
      · by_cases hterminal : nextJob.Terminal
        · right
          have hquiet := quiet_of_terminal htracked hawaited hcurrent hterminal
          rw [pollResolved_terminal hcurrent hterminal] at hquiet ⊢
          rw [hcurrent] at hquiet
          exact hquiet
        · left
          have hstatus : nextJob.status ≠ .completed := fun heq => hterminal (.inl heq)
          rw [pollResolved_unfinished hcurrent hterminal]
          show ((HookEvent.pollResolved call nextJob).write h.shown).preview = _
          cases hjob : nextJob.status with
          | completed => exact absurd hjob hstatus
          | failed | queued | running => simp [HookEvent.write, hjob]
      · left
        rw [pollResolved_stale hcurrent]
  | @pollRejected call hawaited error =>
      left
      unfold pollRejected
      exact (apply_ite (fun g : Hook => g.shown.preview) _ _ _).trans (ite_self _)

end Settled

end Hook

-- ============================================================================
-- The page
-- ============================================================================

/-- What a run of the page did about the review. -/
inductive ReviewEvent where
  /-- A valid text was submitted. -/
  | submitted
  /-- The preview was given up: cancel, edit prompt, or a change of the draft. -/
  | discarded
  /-- The box was set under this preview. -/
  | checked (preview : StrategyPreview) (confirmed : Bool)
  /-- Save Strategy was clicked under this preview. -/
  | saved (preview : StrategyPreview)
  | other

/-- The preview under which the box was checked, unless that was withdrawn; the latest
    event first. -/
def confirmedFor : List ReviewEvent → Option StrategyPreview
  | [] => none
  | .submitted :: _ | .discarded :: _ => none
  | .checked preview confirmed :: _ => if confirmed then some preview else none
  | .saved _ :: past | .other :: past => confirmedFor past

/-- The workspace, and the properties of the `StrategyReview` on the page. -/
structure Page where
  workspace : Workspace
  confirmed : Bool
  isSaving : Bool

namespace Page

/-- The page on its first render. -/
def initial : Page := ⟨.initial, false, false⟩

/-- A render of the workspace. -/
def render (w : Workspace) : Page where
  workspace := { w with rendered := ⟨w.hook.shown, w.pendingName, w.pendingSourceText⟩ }
  confirmed := w.previewConfirmed
  isSaving := w.isSavingPreview

/-- The preview on the page. -/
def preview (page : Page) : Option StrategyPreview := page.workspace.rendered.shown.preview

/-- `saveDisabled` of `StrategyReview`. -/
def saveDisabled (page : Page) (preview : StrategyPreview) : Bool :=
  page.isSaving || (preview.parsedStrategy.requiresConfirmation && !page.confirmed)

/-- The label of a handler that raised this event in the hook. -/
def label (reviewEvent : ReviewEvent) (event : Option HookEvent) : ReviewEvent :=
  if event.isSome then reviewEvent else .other

/-- What continues after an `await`, without an event on the page. -/
inductive Continuation : Workspace → Workspace → Prop
  | saved {w : Workspace} (hawaited : 0 < w.awaitedSaves) : Continuation w w.saved
  | saveFailed {w : Workspace} (hawaited : 0 < w.awaitedSaves) (message : String) :
      Continuation w (w.saveFailed message)
  | reloaded {w : Workspace} (hawaited : 0 < w.awaitedReloads) : Continuation w w.reloaded
  | hook {w : Workspace} {event : HookEvent} {hook : Hook}
      (hcontinues : event.continues ≠ none) (hstep : w.hook.Step event hook) :
      Continuation w { w with hook := hook }
  | unmount {w : Workspace} : Continuation w { w with hook := w.hook.unmount }

/-- What happens on the page: a handler runs, followed by its render, or a closure continues. -/
inductive Step : Page → ReviewEvent → Page → Prop
  | handlePreview {page : Page} (name sourceText : String) :
      Step page (label .submitted (page.workspace.handlePreview name sourceText).1)
        (render (page.workspace.handlePreview name sourceText).2)
  | invalidatePreview {page : Page} :
      Step page (label .discarded page.workspace.invalidatePreview.1)
        (render page.workspace.invalidatePreview.2)
  | cancel {page : Page} : Step page .discarded (render page.workspace.resetPreview)
  | confirmationChange {page : Page} {preview : StrategyPreview}
      (hshown : page.preview = some preview)
      (hrequired : preview.parsedStrategy.requiresConfirmation = true) (confirmed : Bool) :
      Step page (.checked preview confirmed)
        (render { page.workspace with previewConfirmed := confirmed })
  | handleSavePreview {page : Page} {preview : StrategyPreview}
      (hshown : page.preview = some preview) (henabled : page.saveDisabled preview = false) :
      Step page (.saved preview) (render page.workspace.handleSavePreview)
  | continuation {page : Page} {w : Workspace} (hcontinues : Continuation page.workspace w) :
      Step page .other { page with workspace := w }
  | render {page : Page} : Step page .other (render page.workspace)

/-- A run of the page, with its events, the latest first. -/
abbrev Run : List ReviewEvent → Page → Prop := Trace Step initial

section Runs

variable {page page' : Page} {events : List ReviewEvent} {event : ReviewEvent} {w w' : Workspace}

/-- An event on the page is a step of the workspace and a render. -/
theorem workspace_step {hookEvents : List (Option HookEvent)} (hstep : page.Step event page')
    (hrun : Workspace.Run hookEvents page.workspace) :
    ∃ later, Workspace.Run (later ++ hookEvents) page'.workspace := by
  cases hstep with
  | handlePreview name sourceText =>
      exact ⟨[none, _], (hrun.snoc (.handlePreview name sourceText)).snoc .render⟩
  | invalidatePreview => exact ⟨[none, _], (hrun.snoc .invalidatePreview).snoc .render⟩
  | cancel => exact ⟨[none, _], (hrun.snoc .cancel).snoc .render⟩
  | confirmationChange hshown hrequired confirmed =>
      exact ⟨[none, none], (hrun.snoc (.confirmationChange confirmed)).snoc .render⟩
  | handleSavePreview hshown henabled =>
      exact ⟨[none, none], (hrun.snoc .handleSavePreview).snoc .render⟩
  | continuation hcontinues =>
      cases hcontinues with
      | saved hawaited => exact ⟨[_], hrun.snoc (.saved hawaited)⟩
      | saveFailed hawaited message => exact ⟨[_], hrun.snoc (.saveFailed hawaited message)⟩
      | reloaded hawaited => exact ⟨[_], hrun.snoc (.reloaded hawaited)⟩
      | hook hcontinues hstep => exact ⟨[_], hrun.snoc (.continuation hcontinues hstep)⟩
      | unmount => exact ⟨[_], hrun.snoc .unmount⟩
  | render => exact ⟨[_], hrun.snoc .render⟩

/-- A run of the page is a run of the workspace. -/
theorem Run.workspace (hrun : Run events page) :
    ∃ hookEvents, Workspace.Run hookEvents page.workspace := by
  induction hrun with
  | nil => exact ⟨[], .nil⟩
  | snoc _ hstep ih =>
      obtain ⟨hookEvents, hbefore⟩ := ih
      obtain ⟨later, hafter⟩ := workspace_step hstep hbefore
      exact ⟨_, hafter⟩

theorem Run.tracked (hrun : Run events page) :
    ∃ submission, page.workspace.hook.Tracked submission :=
  let ⟨_, hworkspace⟩ := hrun.workspace
  ⟨_, hworkspace.hook.tracked⟩

-- ============================================================================
-- Confirmations
-- ============================================================================

/-- A confirmation in the state is one of the preview in the state, and no other preview
    can come while it is there. -/
structure Safe (events : List ReviewEvent) (w : Workspace) : Prop where
  settled : w.previewConfirmed = true ∨ w.hook.shown.preview ≠ none → w.hook.Settled
  confirmed : w.previewConfirmed = true → ∀ preview, w.hook.shown.preview = some preview →
    confirmedFor events = some preview

/-- So is one on the page, which may be stale but then shows a preview that is gone. -/
structure Guarded (events : List ReviewEvent) (page : Page) : Prop where
  safe : Safe events page.workspace
  settled : page.preview ≠ none → page.workspace.hook.Settled
  confirmed : page.confirmed = true → ∀ preview, page.preview = some preview →
    confirmedFor events = some preview
  kept : ∀ preview, page.preview = some preview →
    ∀ current, page.workspace.hook.shown.preview = some current → current = preview

/-- A render shows the state. -/
theorem Safe.render (hsafe : Safe events w) : Guarded events (render w) where
  safe := ⟨hsafe.settled, hsafe.confirmed⟩
  settled hpreview := hsafe.settled (.inr hpreview)
  confirmed := hsafe.confirmed
  kept _ hpreview _ hcurrent := Option.some.inj (hcurrent.symm.trans hpreview)

/-- Without a preview and a confirmation there is nothing to keep. -/
theorem safe_of_cleared (hpreview : w.hook.shown.preview = none)
    (hconfirmed : w.previewConfirmed = false) : Safe events w where
  settled h := by
    rcases h with h | h
    · exact absurd (hconfirmed.symm.trans h) Bool.false_ne_true
    · exact absurd hpreview h
  confirmed h := absurd (hconfirmed.symm.trans h) Bool.false_ne_true

theorem guarded_initial : Guarded [] initial where
  safe := safe_of_cleared rfl rfl
  settled h := absurd rfl h
  confirmed := nofun
  kept := nofun

/-- A continuation leaves a confirmed preview alone. -/
theorem guarded_continuation {submission : Option Nat}
    (htracked : page.workspace.hook.Tracked submission) (hguarded : Guarded events page)
    (hcontinues : Continuation page.workspace w) :
    Guarded (.other :: events) { page with workspace := w } := by
  cases hcontinues with
  | saved hawaited =>
      exact ⟨safe_of_cleared rfl rfl, fun _ => htracked.settled_reset, hguarded.confirmed,
        fun _ _ _ hcurrent => absurd hcurrent (Option.some_ne_none _).symm⟩
  | saveFailed hawaited message =>
      exact ⟨⟨hguarded.safe.settled, hguarded.safe.confirmed⟩, hguarded.settled,
        hguarded.confirmed, hguarded.kept⟩
  | reloaded hawaited =>
      exact ⟨⟨hguarded.safe.settled, hguarded.safe.confirmed⟩, hguarded.settled,
        hguarded.confirmed, hguarded.kept⟩
  | unmount =>
      exact ⟨⟨fun _ => htracked.settled_stop, hguarded.safe.confirmed⟩,
        fun _ => htracked.settled_stop, hguarded.confirmed, hguarded.kept⟩
  | @hook hookEvent hook hcontinues hstep =>
      by_cases hsettled : page.workspace.hook.Settled
      · obtain ⟨hsettled', hshown⟩ := hsettled.continuation hstep hcontinues
        refine ⟨⟨fun _ => hsettled', ?_⟩, fun _ => hsettled', hguarded.confirmed, ?_⟩
        · rw [hshown]
          exact hguarded.safe.confirmed
        · rw [hshown]
          exact hguarded.kept
      · -- nothing is confirmed, and nothing is on the page
        have hnone := mt hguarded.settled hsettled
        obtain ⟨hunconfirmed, hempty⟩ := not_or.mp (mt hguarded.safe.settled hsettled)
        have hpage : page.preview = none := not_not.mp hnone
        refine ⟨⟨fun h => ?_, fun h => absurd h hunconfirmed⟩, fun h => absurd hpage h,
          hguarded.confirmed, fun preview hpreview => ?_⟩
        · rcases htracked.continuation hstep hcontinues with hsame | hsettled'
          · rcases h with h | h
            · exact absurd h hunconfirmed
            · exact absurd (hsame.trans (not_not.mp hempty)) h
          · exact hsettled'
        · exact absurd (hpreview.symm.trans hpage) (Option.some_ne_none _)

theorem guarded_step {submission : Option Nat}
    (htracked : page.workspace.hook.Tracked submission) (hstep : page.Step event page')
    (hguarded : Guarded events page) : Guarded (event :: events) page' := by
  cases hstep with
  | handlePreview name sourceText =>
      apply Safe.render
      unfold Workspace.handlePreview
      split
      · exact ⟨hguarded.safe.settled, hguarded.safe.confirmed⟩
      · exact safe_of_cleared rfl rfl
  | invalidatePreview =>
      apply Safe.render
      unfold Workspace.invalidatePreview
      dsimp only
      split
      · exact safe_of_cleared rfl rfl
      · exact ⟨hguarded.safe.settled, hguarded.safe.confirmed⟩
  | cancel => exact (safe_of_cleared rfl rfl).render
  | @confirmationChange preview hshown hrequired confirmed =>
      refine Safe.render ⟨fun _ => hguarded.settled ?_, fun htrue current hcurrent => ?_⟩
      · rw [hshown]
        exact Option.some_ne_none _
      · obtain rfl := hguarded.kept preview hshown current hcurrent
        rw [confirmedFor, if_pos htrue]
  | handleSavePreview hshown henabled =>
      apply Safe.render
      unfold Workspace.handleSavePreview
      split
      · exact ⟨hguarded.safe.settled, hguarded.safe.confirmed⟩
      · exact ⟨hguarded.safe.settled, hguarded.safe.confirmed⟩
  | continuation hcontinues => exact guarded_continuation htracked hguarded hcontinues
  | render => exact Safe.render ⟨hguarded.safe.settled, hguarded.safe.confirmed⟩

theorem Run.guarded (hrun : Run events page) : Guarded events page :=
  Trace.invariant_of (P := Guarded) (fun _ _ => Run.tracked) guarded_initial
    (fun _ _ _ _ hstep ⟨_, htracked⟩ hguarded => guarded_step htracked hstep hguarded) hrun

-- ============================================================================
-- Saves
-- ============================================================================

/-- The save was clicked under a preview, which the user had confirmed if it had to be. -/
def Reviewed (events : List ReviewEvent) (request : ConfirmedStrategySaveRequest) : Prop :=
  ∃ preview past, .saved preview :: past <:+ events ∧
    (∃ view, request = Workspace.confirmedSave view preview) ∧
    (request.requiresConfirmation = true → confirmedFor past = some preview)

theorem Reviewed.cons {request : ConfirmedStrategySaveRequest} (h : Reviewed events request)
    (event : ReviewEvent) : Reviewed (event :: events) request :=
  let ⟨preview, past, hsuffix, hrest⟩ := h
  ⟨preview, past, hsuffix.trans (List.suffix_cons event events), hrest⟩

/-- Every save was reviewed; the page knows of the one that is under way. -/
structure Saving (events : List ReviewEvent) (page : Page) : Prop where
  saves : ∀ request ∈ page.workspace.saves, Reviewed events request
  flag : page.isSaving = false → page.workspace.isSavingPreview = false
  flight : page.workspace.awaitedSaves + page.workspace.awaitedReloads =
    page.workspace.isSavingPreview.toNat

/-- A step that saves nothing. -/
theorem Saving.unsaved (hsaving : Saving events page) (event : ReviewEvent)
    (hsaves : w.saves = page.workspace.saves)
    (hflag : w.isSavingPreview = page.workspace.isSavingPreview)
    (hflight : w.awaitedSaves + w.awaitedReloads =
      page.workspace.awaitedSaves + page.workspace.awaitedReloads) :
    Saving (event :: events) (Page.render w) where
  saves request hrequest := (hsaving.saves request (hsaves ▸ hrequest)).cons event
  flag h := h
  flight := hflight.trans (hsaving.flight.trans (congrArg Bool.toNat hflag.symm))

theorem saving_continuation (hsaving : Saving events page)
    (hcontinues : Continuation page.workspace w) :
    Saving (.other :: events) { page with workspace := w } := by
  have hflight := hsaving.flight
  cases hcontinues with
  | saved hawaited =>
      refine ⟨fun request hrequest => (hsaving.saves request hrequest).cons _, hsaving.flag, ?_⟩
      show page.workspace.awaitedSaves - 1 + (page.workspace.awaitedReloads + 1) =
        page.workspace.isSavingPreview.toNat
      omega
  | saveFailed hawaited message =>
      refine ⟨fun request hrequest => (hsaving.saves request hrequest).cons _, fun _ => rfl, ?_⟩
      have hle := Bool.toNat_le page.workspace.isSavingPreview
      show page.workspace.awaitedSaves - 1 + page.workspace.awaitedReloads = 0
      omega
  | reloaded hawaited =>
      refine ⟨fun request hrequest => (hsaving.saves request hrequest).cons _, fun _ => rfl, ?_⟩
      have hle := Bool.toNat_le page.workspace.isSavingPreview
      show page.workspace.awaitedSaves + (page.workspace.awaitedReloads - 1) = 0
      omega
  | hook hcontinues hstep =>
      exact ⟨fun request hrequest => (hsaving.saves request hrequest).cons _, hsaving.flag,
        hflight⟩
  | unmount =>
      exact ⟨fun request hrequest => (hsaving.saves request hrequest).cons _, hsaving.flag,
        hflight⟩

theorem saving_step (hguarded : Guarded events page) (hstep : page.Step event page')
    (hsaving : Saving events page) : Saving (event :: events) page' := by
  cases hstep with
  | handlePreview name sourceText =>
      unfold Workspace.handlePreview
      split <;> exact hsaving.unsaved _ rfl rfl rfl
  | invalidatePreview =>
      unfold Workspace.invalidatePreview
      dsimp only
      split <;> exact hsaving.unsaved _ rfl rfl rfl
  | cancel => exact hsaving.unsaved _ rfl rfl rfl
  | confirmationChange hshown hrequired confirmed => exact hsaving.unsaved _ rfl rfl rfl
  | continuation hcontinues => exact saving_continuation hsaving hcontinues
  | render => exact hsaving.unsaved _ rfl rfl rfl
  | @handleSavePreview preview hshown henabled =>
      obtain ⟨hidle, hconfirmed⟩ := Bool.or_eq_false_iff.mp henabled
      have hflight := hsaving.flight
      rw [hsaving.flag hidle] at hflight
      unfold Workspace.handleSavePreview
      rw [show page.workspace.rendered.shown.preview = some preview from hshown]
      refine ⟨fun request hrequest => ?_, id, ?_⟩
      · rcases List.mem_cons.mp hrequest with rfl | hold
        · refine ⟨preview, events, List.suffix_refl _, ⟨_, rfl⟩, fun hrequired => ?_⟩
          have hbox : page.confirmed = true := by
            have hrequired' : preview.parsedStrategy.requiresConfirmation = true := hrequired
            rw [hrequired'] at hconfirmed
            simpa using hconfirmed
          exact hguarded.confirmed hbox preview hshown
        · exact (hsaving.saves request hold).cons _
      · show page.workspace.awaitedSaves + 1 + page.workspace.awaitedReloads = 1
        rw [Bool.toNat_false] at hflight
        omega

theorem Run.saving (hrun : Run events page) : Saving events page :=
  Trace.invariant_of (P := Saving) (fun _ _ => Run.guarded) ⟨nofun, fun _ => rfl, rfl⟩
    (fun _ _ _ _ hstep hguarded hsaving => saving_step hguarded hstep hsaving) hrun

end Runs

/-- Nothing that requires confirmation is saved unless the last thing done about the
    confirmation was to check the box under the very preview that is saved; and no save
    starts while another one is under way. -/
theorem saves_confirmed {events : List ReviewEvent} {page : Page} (hrun : Run events page) :
    (∀ request ∈ page.workspace.saves, Reviewed events request) ∧
    page.workspace.awaitedSaves + page.workspace.awaitedReloads ≤ 1 :=
  ⟨hrun.saving.saves, hrun.saving.flight.trans_le (Bool.toNat_le _)⟩

/-- A preview that rests on assumptions. -/
def assumedPreview : StrategyPreview :=
  ⟨⟨.object [], .array [], .array [], true, "Buy above 10.", ""⟩, .null⟩

/-- The page once the preview of a submitted text is shown. -/
def reviewPage : Page :=
  let w := (Workspace.initial.handlePreview "Ten" " Buy above 10. ").2
  let w := (render w).workspace
  let w := { w with
    hook := w.hook.enqueueResolved ⟨"Buy above 10.", 1, 0, 1⟩ "job-1" "2026-01-02" }
  let w := { w with
    hook := w.hook.pollResolved ⟨"job-1", 1, 1, 1⟩
      { completedJob "Buy above 10." with previewResult := some assumedPreview } }
  render w

theorem reviewPage_run : Run [.other, .other, .other, .submitted] reviewPage := by
  have hsubmitted : Run [.submitted]
      (render (Workspace.initial.handlePreview "Ten" " Buy above 10. ").2) :=
    Trace.nil.snoc (.handlePreview "Ten" " Buy above 10. ")
  have henqueued := hsubmitted.snoc (.continuation (.hook (by rintro ⟨⟩)
    (.enqueueResolved (List.mem_cons_self ..) "job-1" "2026-01-02")))
  have hpolled := henqueued.snoc (.continuation (.hook (by rintro ⟨⟩)
    (.pollResolved (List.mem_cons_self ..)
      { completedJob "Buy above 10." with previewResult := some assumedPreview })))
  exact hpolled.snoc .render

/-- The box is checked, and the preview saved. -/
theorem saves_confirmed_checked :
    ∃ events page request, Run events page ∧ page.workspace.saves = [request] ∧
      request.requiresConfirmation = true ∧ Reviewed events request := by
  have hchecked := reviewPage_run.snoc (.confirmationChange rfl rfl true)
  have hsaved := hchecked.snoc (.handleSavePreview rfl rfl)
  exact ⟨_, _, _, hsaved, rfl, rfl,
    (saves_confirmed hsaved).1 _ (List.mem_singleton_self _)⟩

end Page

end Frontend
end TradingPlatform
