/-
  TradingPlatform.Core.Pydantic

  Pydantic's validation of a JSON document, as far as the request and response
  models of the backend use it.

  The shape of a document (objects with `extra="forbid"`, lists, literals,
  optional fields) is checked here.  `Reading` names the lax conversions of
  scalars, each a function of the document; `Reading.Inverts` says that they
  read back what the dump of a model writes.
-/

import Mathlib.Data.List.Basic
import TradingPlatform.Core.Json

namespace TradingPlatform
namespace Pydantic

/-- What validation raises: the document has another shape, or a model validator
    raised `ValueError(message)`. -/
inductive ValidationError where
  | malformed
  | valueError (message : String)
deriving DecidableEq, Repr

/-- The validation of one value. -/
abbrev Validator (α : Type _) := Json → Except ValidationError α

/-- The conversions of scalars in lax mode; `number` chooses between `int` and `Decimal`
    for a number with a fraction or exponent. -/
structure Reading where
  bool : Json → Option Bool
  int : Json → Option Int
  decimal : Json → Option Decimal
  datetime : Json → Option Timestamp
  number : Decimal → Option (Int ⊕ Decimal)

/-- Dumped values read back as themselves: JSON Booleans and integers, and the texts of
    a `Decimal` and of a `datetime`. -/
structure Reading.Inverts (reading : Reading) (rendering : Rendering) : Prop where
  bool : ∀ b, reading.bool (.bool b) = some b
  int : ∀ n, reading.int (.int n) = some n
  decimal : ∀ v, reading.decimal (.str (rendering.str v)) = some v
  datetime : ∀ t, reading.datetime (.str (rendering.isoformat t)) = some t

-- ============================================================================
-- Validators
-- ============================================================================

section Validators

variable {α β : Type _}

/-- A conversion that fails makes the value malformed. -/
def converted (convert : Json → Option α) : Validator α := fun json =>
  match convert json with
  | some value => .ok value
  | none => .error .malformed

/-- A strict `str`. -/
def string : Validator String
  | .str value => .ok value
  | _ => .error .malformed

/-- `StrictInt` -/
def strictInt : Validator Int
  | .int value => .ok value
  | _ => .error .malformed

/-- A `Literal` of strings or a `StrEnum`: the members and their values. -/
def literal (members : List (String × α)) : Validator α
  | .str value =>
      match members.lookup value with
      | some member => .ok member
      | none => .error .malformed
  | _ => .error .malformed

/-- `Literal[100]` -/
def literalInt (expected : Int) : Validator Int
  | .int value => if value = expected then .ok value else .error .malformed
  | _ => .error .malformed

/-- `dict[str, …]` -/
def dict : Validator (List (String × Json))
  | .object entries => .ok entries
  | _ => .error .malformed

/-- A list of validated items. -/
def list (item : Validator α) : Validator (List α)
  | .array items => items.mapM item
  | _ => .error .malformed

/-- `… | None` -/
def nullable (value : Validator α) : Validator (Option α)
  | .null => .ok none
  | json => (value json).map some

/-- The entries of an object that may have these fields only, `extra="forbid"`. -/
def fields (names : List String) : Validator (List (String × Json))
  | .object entries =>
      if entries.all fun entry => names.contains entry.1 then .ok entries
      else .error .malformed
  | _ => .error .malformed

/-- A required field. -/
def required (entries : List (String × Json)) (name : String) (value : Validator α) :
    Except ValidationError α :=
  match entries.lookup name with
  | some json => value json
  | none => .error .malformed

/-- A field that may be missing: `none` when it is not set. -/
def ifSet (entries : List (String × Json)) (name : String) (value : Validator α) :
    Except ValidationError (Option α) :=
  match entries.lookup name with
  | some json => (value json).map some
  | none => .ok none

/-- A field with a default. -/
def withDefault (entries : List (String × Json)) (name : String) (default : α)
    (value : Validator α) : Except ValidationError α :=
  (ifSet entries name value).map (·.getD default)

/-- A `Field` constraint on a value. -/
def satisfying (check : α → Prop) [DecidablePred check] (value : Validator α) : Validator α :=
  fun json => (value json).bind fun result =>
    if check result then .ok result else .error .malformed

end Validators

-- ============================================================================
-- Reading back what was dumped
-- ============================================================================

section ReadBack

variable {α : Type _}

theorem converted_of_eq_some {convert : Json → Option α} {json : Json} {value : α}
    (h : convert json = some value) : converted convert json = .ok value := by
  rw [converted, h]

theorem fields_object {names : List String} {entries : List (String × Json)}
    (h : entries.all (fun entry => names.contains entry.1) = true) :
    fields names (.object entries) = .ok entries := if_pos h

theorem required_eq {α : Type} {entries : List (String × Json)} {name : String} {json : Json}
    {value : Validator α} (h : entries.lookup name = some json) :
    required entries name value = value json := by
  rw [required, h]

theorem list_map {item : Validator α} {dump : α → Json} {values : List α}
    (h : ∀ value ∈ values, item (dump value) = .ok value) :
    list item (.array (values.map dump)) = .ok values := by
  rw [list]
  induction values with
  | nil => rfl
  | cons value rest ih =>
      rw [List.map_cons, List.mapM_cons, h value (List.mem_cons_self ..),
        ih fun v hv => h v (List.mem_cons_of_mem _ hv)]
      rfl

/-- An optional value whose dump is never `null`. -/
theorem nullable_ofOption {value : Validator α} {dump : α → Json} {optional : Option α}
    (hdump : ∀ v ∈ optional, dump v ≠ .null) (h : ∀ v ∈ optional, value (dump v) = .ok v) :
    nullable value (.ofOption (optional.map dump)) = .ok optional := by
  cases optional with
  | none => rfl
  | some v =>
      have hvalue := h v rfl
      have hnull := hdump v rfl
      rw [Option.map_some, Json.ofOption]
      unfold nullable
      split
      · rename_i heq
        exact absurd heq hnull
      · rw [hvalue]
        rfl

theorem satisfying_of_ok {check : α → Prop} [DecidablePred check] {value : Validator α}
    {json : Json} {result : α} (h : value json = .ok result) (hcheck : check result) :
    satisfying check value json = .ok result := by
  rw [satisfying, h]
  exact if_pos hcheck

theorem satisfying_eq_ok {check : α → Prop} [DecidablePred check] {value : Validator α}
    {json : Json} {result : α} (h : satisfying check value json = .ok result) :
    value json = .ok result ∧ check result := by
  unfold satisfying at h
  cases hvalue : value json with
  | error e =>
      rw [hvalue] at h
      cases h
  | ok v =>
      rw [hvalue] at h
      simp only [Except.bind] at h
      split at h
      · rename_i hcheck
        cases h
        exact ⟨rfl, hcheck⟩
      · cases h

end ReadBack

-- ============================================================================
-- What a successful validation went through
-- ============================================================================

section Inversion

variable {α : Type _} {value : Validator α} {entries : List (String × Json)} {name : String}

theorem required_eq_ok {result : α} (h : required entries name value = .ok result) :
    ∃ json, value json = .ok result := by
  unfold required at h
  split at h
  · exact ⟨_, h⟩
  · cases h

theorem withDefault_eq_ok {default result : α}
    (h : withDefault entries name default value = .ok result) :
    result = default ∨ ∃ json, value json = .ok result := by
  unfold withDefault ifSet at h
  split at h
  · rename_i document _
    cases hvalue : value document with
    | error e =>
        rw [hvalue] at h
        cases h
    | ok v =>
        rw [hvalue] at h
        obtain rfl : v = result := Except.ok.inj h
        exact Or.inr ⟨document, hvalue⟩
  · exact Or.inl (Except.ok.inj h).symm

theorem nullable_eq_ok {json : Json} {optional : Option α}
    (h : nullable value json = .ok optional) : ∀ v ∈ optional, ∃ json, value json = .ok v := by
  unfold nullable at h
  split at h
  · obtain rfl := Except.ok.inj h
    nofun
  · intro v hv
    cases hvalue : value json with
    | error e =>
        rw [hvalue] at h
        cases h
    | ok w =>
        rw [hvalue] at h
        obtain rfl := Except.ok.inj h
        obtain rfl := Option.some.inj hv
        exact ⟨json, hvalue⟩

end Inversion

end Pydantic
end TradingPlatform
