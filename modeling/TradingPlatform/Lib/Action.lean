/-
  TradingPlatform.Lib.Action

  Stateful actions that may raise, with pre- and postconditions, for any state
  and exception type.

  `Action.Ensures P x Q E` has a postcondition for each way to end: `Q` for a
  return and `E` for an exception.  Raising keeps the state, so a handler and a
  cleanup find what the failed action left.
-/

namespace Action

variable {ε σ α β : Type _}

/-- From a state with `P` the action returns as `Q` says, or raises as `E` says. -/
structure Ensures (P : σ → Prop) (x : EStateM ε σ α) (Q : α → σ → Prop)
    (E : ε → σ → Prop) : Prop where
  returns : ∀ {s a s'}, P s → x s = .ok a s' → Q a s'
  raises : ∀ {s e s'}, P s → x s = .error e s' → E e s'

/-- The state after a run, whichever way it ended. -/
def after (x : EStateM ε σ α) (s : σ) : σ :=
  match x s with
  | .ok _ s' => s'
  | .error _ s' => s'

/-- `try: x finally: cleanup`, where the cleanup swallows its own exceptions. -/
def withCleanup (x : EStateM ε σ α) (cleanup : EStateM ε σ Unit) : EStateM ε σ α := fun s =>
  match x s with
  | .ok a s' => .ok a (after cleanup s')
  | .error e s' => .error e (after cleanup s')

section Rules

variable {P P' : σ → Prop} {x : EStateM ε σ α} {Q Q' : α → σ → Prop} {E E' R : ε → σ → Prop}

theorem Ensures.weaken (h : Ensures P x Q E) (hP : ∀ s, P' s → P s)
    (hQ : ∀ a s, Q a s → Q' a s) (hE : ∀ e s, E e s → E' e s) : Ensures P' x Q' E' where
  returns hs hrun := hQ _ _ (h.returns (hP _ hs) hrun)
  raises hs hrun := hE _ _ (h.raises (hP _ hs) hrun)

theorem Ensures.of_pre (h : Ensures P x Q E) (hP : ∀ s, P' s → P s) : Ensures P' x Q E :=
  h.weaken hP (fun _ _ hQ => hQ) (fun _ _ hE => hE)

theorem Ensures.imp_returns (h : Ensures P x Q E) (hQ : ∀ a s, Q a s → Q' a s) :
    Ensures P x Q' E :=
  h.weaken (fun _ hs => hs) hQ (fun _ _ hE => hE)

theorem Ensures.imp_raises (h : Ensures P x Q E) (hE : ∀ e s, E e s → E' e s) :
    Ensures P x Q E' :=
  h.weaken (fun _ hs => hs) (fun _ _ hQ => hQ) hE

theorem ensures_of_unreachable (h : ∀ s, ¬ P s) : Ensures P x Q E :=
  ⟨fun hs => (h _ hs).elim, fun hs => (h _ hs).elim⟩

/-- A precondition that says nothing of the state can be assumed. -/
theorem ensures_of_fact {fact : Prop} (h : fact → Ensures P x Q E) :
    Ensures (fun s => fact ∧ P s) x Q E where
  returns hs hrun := (h hs.1).returns hs.2 hrun
  raises hs hrun := (h hs.1).raises hs.2 hrun

/-- What both postconditions say of the state holds after the run. -/
theorem Ensures.holds_after {T : σ → Prop} (h : Ensures P x Q E) (hQ : ∀ a s, Q a s → T s)
    (hE : ∀ e s, E e s → T s) {s : σ} (hs : P s) : T (Action.after x s) := by
  unfold Action.after
  cases hrun : x s with
  | ok a s' => exact hQ a s' (h.returns hs hrun)
  | error e s' => exact hE e s' (h.raises hs hrun)

/-- An action that returns from every state with `P` needs no postcondition for exceptions. -/
theorem ensures_of_returns (h : ∀ s, P s → ∃ a s', x s = .ok a s' ∧ Q a s') :
    Ensures P x Q E where
  returns {s a s'} hs hrun := by
    obtain ⟨b, t, hreturn, hpost⟩ := h s hs
    rw [hreturn] at hrun
    cases hrun
    exact hpost
  raises {s e s'} hs hrun := by
    obtain ⟨b, t, hreturn, -⟩ := h s hs
    rw [hreturn] at hrun
    cases hrun

theorem ensures_pure {a : α} (h : ∀ s, P s → Q a s) : Ensures P (pure a : EStateM ε σ α) Q E :=
  ensures_of_returns fun s hs => ⟨a, s, rfl, h s hs⟩

theorem ensures_throw {e : ε} (h : ∀ s, P s → E e s) :
    Ensures P (throw e : EStateM ε σ α) Q E where
  returns _ hrun := by cases hrun
  raises hs hrun := by
    cases hrun
    exact h _ hs

theorem bind_eq (x : EStateM ε σ α) (f : α → EStateM ε σ β) (s : σ) :
    (x >>= f) s =
      match x s with
      | .ok a s' => f a s'
      | .error e s' => .error e s' := rfl

theorem tryCatch_eq (x : EStateM ε σ α) (handle : ε → EStateM ε σ α) (s : σ) :
    tryCatch x handle s =
      match x s with
      | .ok a s' => .ok a s'
      | .error e s' => handle e s' := by
  show EStateM.tryCatch x handle s = _
  unfold EStateM.tryCatch
  cases x s <;> rfl

theorem Ensures.bind {S : α → σ → Prop} {T : β → σ → Prop} {f : α → EStateM ε σ β}
    (hx : Ensures P x S E) (hf : ∀ a, Ensures (S a) (f a) T E) : Ensures P (x >>= f) T E where
  returns {s b s'} hs hrun := by
    rw [bind_eq] at hrun
    cases hfirst : x s with
    | ok a s₁ =>
        rw [hfirst] at hrun
        exact (hf a).returns (hx.returns hs hfirst) hrun
    | error e s₁ =>
        rw [hfirst] at hrun
        cases hrun
  raises {s e s'} hs hrun := by
    rw [bind_eq] at hrun
    cases hfirst : x s with
    | ok a s₁ =>
        rw [hfirst] at hrun
        exact (hf a).raises (hx.returns hs hfirst) hrun
    | error e₁ s₁ =>
        rw [hfirst] at hrun
        cases hrun
        exact hx.raises hs hfirst

/-- The handler runs from where the exception was raised. -/
theorem Ensures.tryCatch {handle : ε → EStateM ε σ α} (hx : Ensures P x Q R)
    (hhandle : ∀ e, Ensures (R e) (handle e) Q E) :
    Ensures P (MonadExcept.tryCatch x handle) Q E where
  returns {s a s'} hs hrun := by
    rw [tryCatch_eq] at hrun
    cases hfirst : x s with
    | ok a₁ s₁ =>
        rw [hfirst] at hrun
        cases hrun
        exact hx.returns hs hfirst
    | error e s₁ =>
        rw [hfirst] at hrun
        exact (hhandle e).returns (hx.raises hs hfirst) hrun
  raises {s e s'} hs hrun := by
    rw [tryCatch_eq] at hrun
    cases hfirst : x s with
    | ok a s₁ =>
        rw [hfirst] at hrun
        cases hrun
    | error e₁ s₁ =>
        rw [hfirst] at hrun
        exact (hhandle e₁).raises (hx.raises hs hfirst) hrun

/-- A cleanup that keeps both postconditions, however it ends. -/
theorem Ensures.withCleanup {cleanup : EStateM ε σ Unit} (hx : Ensures P x Q E)
    (hreturn : ∀ a s, Q a s → Q a (after cleanup s))
    (hraise : ∀ e s, E e s → E e (after cleanup s)) :
    Ensures P (Action.withCleanup x cleanup) Q E where
  returns {s a s'} hs hrun := by
    unfold Action.withCleanup at hrun
    cases hfirst : x s with
    | ok a₁ s₁ =>
        rw [hfirst] at hrun
        cases hrun
        exact hreturn _ _ (hx.returns hs hfirst)
    | error e s₁ =>
        rw [hfirst] at hrun
        cases hrun
  raises {s e s'} hs hrun := by
    unfold Action.withCleanup at hrun
    cases hfirst : x s with
    | ok a s₁ =>
        rw [hfirst] at hrun
        cases hrun
    | error e₁ s₁ =>
        rw [hfirst] at hrun
        cases hrun
        exact hraise _ _ (hx.raises hs hfirst)

end Rules

end Action
