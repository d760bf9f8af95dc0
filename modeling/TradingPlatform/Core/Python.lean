/-
  TradingPlatform.Core.Python

  The Python runtime the backend is written against, as far as its functions
  can observe it: the exceptions they raise, `Decimal` arithmetic taken as
  exact rationals, sequence indexing, and `datetime` as microseconds since the
  Unix epoch.  Fallible operations return `Except PyError`.
-/

import Mathlib.Data.Rat.Floor

namespace TradingPlatform

/-- `decimal.Decimal`, taken as an exact rational. -/
abbrev Decimal := ℚ

/-- A timezone-aware `datetime`: microseconds since the Unix epoch. -/
abbrev Timestamp := Int

/-- The exceptions that the modelled functions can raise, with their messages. -/
inductive PyError where
  | valueError (message : String)
  | runtimeError (message : String)
  | indexError
  | assertionError
  | divisionByZero
  | invalidOperation
  | strategyValidationError (message : String)
  | strategyCompilationError (message : String)
  | marketDataUnavailableError (message : String)
deriving DecidableEq, Repr

namespace Python

/-- A computation that returned goes on with its value. -/
theorem ok_bind {ε α β : Type _} (a : α) (f : α → Except ε β) :
    (Except.ok a >>= f) = f a := rfl

/-- A computation in two parts returned: both of them did. -/
theorem bind_eq_ok {ε α β : Type _} {x : Except ε α} {f : α → Except ε β} {b : β}
    (h : (x >>= f) = .ok b) : ∃ a, x = .ok a ∧ f a = .ok b := by
  cases x with
  | error e => cases h
  | ok a => exact ⟨a, rfl, h⟩

/-- A returned value that was found to pass a check. -/
theorem exists_ok_of_any {ε α : Type _} {x : Except ε α} {check : α → Prop}
    [DecidablePred check] (h : (x.toOption.any fun a => check a) = true) :
    ∃ a, x = .ok a ∧ check a := by
  cases x with
  | error e => cases h
  | ok a => exact ⟨a, rfl, of_decide_eq_true h⟩

-- ============================================================================
-- Decimal arithmetic
-- ============================================================================

/-- `a / b` on `Decimal`s: `0 / 0` is an invalid operation, `a / 0` a division
    by zero. -/
def divide (a b : Decimal) : Except PyError Decimal :=
  if b = 0 then
    .error (if a = 0 then .invalidOperation else .divisionByZero)
  else
    .ok (a / b)

/-- Truncation toward zero, the rounding of `Decimal.__floordiv__` and `int`. -/
def truncate (q : Decimal) : Int :=
  if 0 ≤ q then ⌊q⌋ else ⌈q⌉

/-- `int(a // b)` on `Decimal`s, exact as `divide` is: the `InvalidOperation` that `//` raises for
    a quotient of more digits than the context holds (28) is not modelled. -/
def floorDivide (a b : Decimal) : Except PyError Int :=
  if b = 0 then
    .error (if a = 0 then .invalidOperation else .divisionByZero)
  else
    .ok (truncate (a / b))

theorem divide_of_ne_zero {a b : Decimal} (hb : b ≠ 0) : divide a b = .ok (a / b) := by
  rw [divide, if_neg hb]

/-- A whole-share count: truncation of a nonnegative quotient is the natural floor. -/
theorem floorDivide_of_nonneg {a b : Decimal} (ha : 0 ≤ a) (hb : 0 < b) :
    floorDivide a b = .ok (⌊a / b⌋₊ : Int) := by
  have hq : 0 ≤ a / b := div_nonneg ha hb.le
  rw [floorDivide, if_neg hb.ne', truncate, if_pos hq, Int.natCast_floor_eq_floor hq]

-- ============================================================================
-- Sequences
-- ============================================================================

/-- `xs[i]` for a nonnegative index. -/
def getItem {α : Type _} (xs : List α) (i : Nat) : Except PyError α :=
  match xs[i]? with
  | some x => .ok x
  | none => .error .indexError

/-- `xs[-1]`. -/
def getLast {α : Type _} (xs : List α) : Except PyError α :=
  match xs.getLast? with
  | some x => .ok x
  | none => .error .indexError

/-- `xs[i] = x` for a nonnegative index. -/
def setItem {α : Type _} (xs : List α) (i : Nat) (x : α) : Except PyError (List α) :=
  if i < xs.length then .ok (xs.set i x) else .error .indexError

/-- `zip(xs, ys, strict=True)`, consumed to the end. -/
def zipStrict {α β : Type _} (xs : List α) (ys : List β) : Except PyError (List (α × β)) :=
  if ys.length < xs.length then
    .error (.valueError "zip() argument 2 is shorter than argument 1")
  else if xs.length < ys.length then
    .error (.valueError "zip() argument 2 is longer than argument 1")
  else
    .ok (xs.zip ys)

theorem getItem_of_getElem? {α : Type _} {xs : List α} {i : Nat} {x : α}
    (h : xs[i]? = some x) : getItem xs i = .ok x := by
  rw [getItem, h]

theorem getItem_of_lt {α : Type _} {xs : List α} {i : Nat} (h : i < xs.length) :
    getItem xs i = .ok xs[i] :=
  getItem_of_getElem? (List.getElem?_eq_getElem h)

theorem getLast_of_ne_nil {α : Type _} {xs : List α} (h : xs ≠ []) :
    getLast xs = .ok (xs.getLast h) := by
  rw [getLast, List.getLast?_eq_some_getLast h]

theorem setItem_of_lt {α : Type _} {xs : List α} {i : Nat} (h : i < xs.length) (x : α) :
    setItem xs i x = .ok (xs.set i x) := by
  rw [setItem, if_pos h]

theorem zipStrict_of_length_eq {α β : Type _} {xs : List α} {ys : List β}
    (h : xs.length = ys.length) : zipStrict xs ys = .ok (xs.zip ys) := by
  rw [zipStrict, if_neg (by omega), if_neg (by omega)]

end Python
end TradingPlatform
