/-
  TradingPlatform.Lib.Service

  A service as a function of a request and a state, for any request, response
  and state type, and its runs over a sequence of requests.

  - `Service.Along` says that each request of a run meets a condition in the
    state it finds; `Service.run_invariant` is the induction over such a run.
  - `Service.run_filterMap`: a run whose requests each do what a request of another
    service does, or nothing, ends where the run of these ends.
  - `Service.run_purge` is the two-run rule: if every request of one owner is
    answered alike in related states, and every other request keeps the states
    related, then the run and the run without the others' requests give that
    owner the same responses.
-/

import Mathlib.Data.List.Basic

namespace Service

variable {σ ι ο κ : Type _}

/-- The requests with their responses, and the state after them. -/
def run (handle : ι → σ → ο × σ) : List ι → σ → List (ι × ο) × σ
  | [], s => ([], s)
  | i :: rest, s =>
      let (response, s') := handle i s
      let (responses, final) := run handle rest s'
      ((i, response) :: responses, final)

section Run

variable (handle : ι → σ → ο × σ)

@[simp] theorem run_nil (s : σ) : run handle [] s = ([], s) := rfl

theorem run_cons (i : ι) (rest : List ι) (s : σ) :
    run handle (i :: rest) s =
      ((i, (handle i s).1) :: (run handle rest (handle i s).2).1,
        (run handle rest (handle i s).2).2) := rfl

/-- Each request meets the condition in the state it finds. -/
def Along (C : ι → σ → Prop) : List ι → σ → Prop
  | [], _ => True
  | i :: rest, s => C i s ∧ Along C rest (handle i s).2

theorem along_of_forall {C : ι → σ → Prop} : ∀ (requests : List ι) (s : σ),
    (∀ i ∈ requests, ∀ s, C i s) → Along handle C requests s
  | [], _, _ => trivial
  | i :: rest, s, h =>
      ⟨h i (List.mem_cons_self ..) s,
        along_of_forall rest _ fun j hj => h j (List.mem_cons_of_mem _ hj)⟩

/-- An invariant of the requests so far and the state. -/
theorem run_invariant {C : ι → σ → Prop} {P : List ι → σ → Prop}
    (hstep : ∀ past i s, C i s → P past s → P (past ++ [i]) (handle i s).2) :
    ∀ (requests past : List ι) (s : σ), Along handle C requests s → P past s →
      P (past ++ requests) (run handle requests s).2 := by
  intro requests
  induction requests with
  | nil =>
      intro past s _ h
      rwa [List.append_nil]
  | cons i rest ih =>
      intro past s halong h
      have hrest := ih (past ++ [i]) _ halong.2 (hstep past i s halong.1 h)
      rwa [List.append_assoc, List.singleton_append] at hrest

end Run

-- ============================================================================
-- Requests without effect
-- ============================================================================

/-- A service whose requests each do what one request of another service does, or nothing. -/
theorem run_filterMap {ι' ο' : Type _} (handle : ι → σ → ο × σ) (handle' : ι' → σ → ο' × σ)
    (effective : ι' → Option ι)
    (hstep : ∀ i s, (handle' i s).2 = (effective i).elim s fun j => (handle j s).2) :
    ∀ (requests : List ι') (s : σ),
      (run handle' requests s).2 = (run handle (requests.filterMap effective) s).2 := by
  intro requests
  induction requests with
  | nil =>
      intro s
      rfl
  | cons i rest ih =>
      intro s
      have hnext := hstep i s
      rw [run_cons, List.filterMap_cons]
      show (run handle' rest (handle' i s).2).2 = _
      rw [ih, hnext]
      cases effective i with
      | none => rfl
      | some j => rfl

-- ============================================================================
-- Two runs
-- ============================================================================

variable [DecidableEq κ]

/-- The requests of one owner, with their responses. -/
def answersTo (owner : ι → κ) (a : κ) (answers : List (ι × ο)) : List (ι × ο) :=
  answers.filter fun answer => owner answer.1 = a

/-- `R requests s s'` relates the states of the full run and of the purged one, with
    `requests` still to come. -/
theorem run_purge (handle : ι → σ → ο × σ) (owner : ι → κ) (a : κ)
    (R : List ι → σ → σ → Prop)
    (hown : ∀ i rest s s', owner i = a → R (i :: rest) s s' →
      (handle i s).1 = (handle i s').1 ∧ R rest (handle i s).2 (handle i s').2)
    (hother : ∀ i rest s s', owner i ≠ a → R (i :: rest) s s' → R rest (handle i s).2 s') :
    ∀ (requests : List ι) (s s' : σ), R requests s s' →
      answersTo owner a (run handle requests s).1 =
        (run handle (requests.filter fun i => owner i = a) s').1 ∧
      R [] (run handle requests s).2
        (run handle (requests.filter fun i => owner i = a) s').2 := by
  intro requests
  induction requests with
  | nil => exact fun s s' h => ⟨rfl, h⟩
  | cons i rest ih =>
      intro s s' h
      by_cases howner : owner i = a
      · obtain ⟨hresponse, hnext⟩ := hown i rest s s' howner h
        obtain ⟨hanswers, hfinal⟩ := ih _ _ hnext
        have hkept : (i :: rest).filter (fun i => owner i = a) =
            i :: rest.filter fun i => owner i = a := by simp [howner]
        rw [hkept, run_cons, run_cons]
        refine ⟨?_, hfinal⟩
        rw [answersTo, List.filter_cons_of_pos (by simpa using howner), hresponse]
        exact congrArg _ hanswers
      · obtain ⟨hanswers, hfinal⟩ := ih _ _ (hother i rest s s' howner h)
        have hpurged : (i :: rest).filter (fun i => owner i = a) =
            rest.filter fun i => owner i = a := by simp [howner]
        rw [hpurged, run_cons]
        refine ⟨?_, hfinal⟩
        rw [answersTo, List.filter_cons_of_neg (by simpa using howner)]
        exact hanswers

end Service
