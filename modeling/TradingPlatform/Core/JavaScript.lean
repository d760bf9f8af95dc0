/-
  TradingPlatform.Core.JavaScript

  What the frontend uses of JavaScript: its strings, the values that
  `JSON.parse` gives, with numbers rounded to doubles, and what becomes of a
  document that is parsed and sent back (`transfer`).
-/

import TradingPlatform.Core.Json
import TradingPlatform.Core.Text
import TradingPlatform.Lib.Double

namespace TradingPlatform
namespace JavaScript

/-- `WhiteSpace` and `LineTerminator` of the language. -/
def isWhiteSpace (c : Char) : Bool :=
  (9 ≤ c.val ∧ c.val ≤ 13) ∨ c.val = 0x20 ∨ c.val = 0xA0 ∨ c.val = 0x1680 ∨
    (0x2000 ≤ c.val ∧ c.val ≤ 0x200A) ∨ c.val = 0x2028 ∨ c.val = 0x2029 ∨ c.val = 0x202F ∨
    c.val = 0x205F ∨ c.val = 0x3000 ∨ c.val = 0xFEFF

/-- `text.trim()` -/
def trim (text : String) : String := stripWhere isWhiteSpace text

/-- `text.length`: the UTF-16 code units. -/
def length (text : String) : Nat :=
  (text.toList.map fun c => if c.val < 0x10000 then 1 else 2).sum

/-- A character is one or two code units. -/
theorem length_le (value : String) : value.length ≤ length value := by
  rw [← String.length_toList, length]
  induction value.toList with
  | nil => exact le_rfl
  | cons c rest ih =>
      rw [List.map_cons, List.sum_cons, List.length_cons]
      split <;> omega

-- ============================================================================
-- Parsed documents
-- ============================================================================

/-- `typeof value === "string"` -/
def isString : Json → Bool
  | .str _ => true
  | _ => false

/-- `typeof value === "boolean"` -/
def isBoolean : Json → Bool
  | .bool _ => true
  | _ => false

/-- `typeof value === "number"` -/
def isNumber : Json → Bool
  | .int _ | .number _ => true
  | _ => false

/-- `Array.isArray(value)` -/
def isArray : Json → Bool
  | .array _ => true
  | _ => false

/-- `Array.isArray(value) && value.every(check)` -/
def everyItem (check : Json → Bool) : Json → Bool
  | .array items => items.all check
  | _ => false

/-- `value[name]` satisfies a check that `undefined` does not. -/
def property (value : Json) (name : String) (check : Json → Bool) : Bool :=
  match value with
  | .object entries => (entries.lookup name).any check
  | _ => false

/-- The number a document writes, before it is rounded. -/
def written : Json → Option Decimal
  | .int n => some n
  | .number v => some v
  | _ => none

/-- `Number.isFinite(value)` -/
def isFinite (value : Json) : Bool := (written value).any fun v => Double.Finite v

/-- `Number.isInteger(value)` -/
def isInteger (value : Json) : Bool :=
  (written value).any fun v => Double.Finite v ∧ (Double.nearest v).den = 1

theorem isInteger_int (n : Int) : isInteger (.int n) = decide (Double.Finite n) := by
  obtain ⟨m, hm⟩ := Double.exists_nearest_intCast n
  have hwhole : (Double.nearest n).den = 1 := by
    rw [hm]
    exact Rat.den_intCast m
  simp [isInteger, written, hwhole]

/-- `Number(text)` before it is rounded, where it is a number: it reads the texts of
    `Decimal`s, none of which is blank. -/
structure Reads (number : String → Option Decimal) (rendering : Rendering) : Prop where
  number : ∀ v, number (rendering.str v) = some v
  notBlank : ∀ v, trim (rendering.str v) ≠ ""

-- ============================================================================
-- Documents that a page sends back
-- ============================================================================

section Transfer

-- `JSON.stringify` of a number
variable (print : Decimal → Json)

/-- A number of a document, written anew; an infinity is written as `null`. -/
def transferNumber (v : Decimal) : Json :=
  if Double.Finite v then print (Double.nearest v) else .null

mutual

/-- `JSON.stringify(JSON.parse(…))`, as the receiver reads it.  The keys of the documents are
    distinct, and none is an array index. -/
def transfer : Json → Json
  | .null => .null
  | .bool value => .bool value
  | .int value => transferNumber print value
  | .number value => transferNumber print value
  | .str value => .str value
  | .array items => .array (transferItems items)
  | .object entries => .object (transferEntries entries)
termination_by structural json => json

/-- The items of an array, sent and read. -/
def transferItems : List Json → List Json
  | [] => []
  | item :: items => transfer item :: transferItems items
termination_by structural items => items

/-- The entries of an object, sent and read. -/
def transferEntries : List (String × Json) → List (String × Json)
  | [] => []
  | entry :: entries => transferEntry entry :: transferEntries entries
termination_by structural entries => entries

/-- The name of an entry stays as it is. -/
def transferEntry : String × Json → String × Json
  | (name, value) => (name, transfer value)
termination_by structural entry => entry

end

end Transfer

/-- A double that is an integer of at most 53 bits is written with its digits. -/
def PrintsIntegers (print : Decimal → Json) : Prop :=
  ∀ n : Int, |n| < 2 ^ 53 → print n = .int n

section Transfer

variable {print : Decimal → Json}

theorem transferItems_eq_map (items : List Json) :
    transferItems print items = items.map (transfer print) := by
  induction items with
  | nil => rfl
  | cons item items ih => exact congrArg (transfer print item :: ·) ih

@[simp] theorem transfer_array (items : List Json) :
    transfer print (.array items) = .array (items.map (transfer print)) := by
  rw [← transferItems_eq_map]
  rfl

theorem transferEntries_eq_map (entries : List (String × Json)) :
    transferEntries print entries = entries.map fun entry => (entry.1, transfer print entry.2) := by
  induction entries with
  | nil => rfl
  | cons entry entries ih =>
      obtain ⟨name, value⟩ := entry
      exact congrArg ((name, transfer print value) :: ·) ih

@[simp] theorem transfer_object (entries : List (String × Json)) :
    transfer print (.object entries) =
      .object (entries.map fun entry => (entry.1, transfer print entry.2)) := by
  rw [← transferEntries_eq_map]
  rfl

@[simp] theorem transfer_str (value : String) : transfer print (.str value) = .str value := rfl

@[simp] theorem transfer_bool (value : Bool) : transfer print (.bool value) = .bool value := rfl

@[simp] theorem transfer_null : transfer print .null = .null := rfl

theorem transfer_int (hprint : PrintsIntegers print) {n : Int} (hn : |n| < 2 ^ 53) :
    transfer print (.int n) = .int n := by
  show transferNumber print n = .int n
  rw [transferNumber, if_pos (Double.finite_intCast hn), Double.nearest_intCast hn, hprint n hn]

/-- An optional text. -/
theorem transfer_ofOption_str {α : Type} (text : α → String) (optional : Option α) :
    transfer print (.ofOption (optional.map fun v => .str (text v))) =
      .ofOption (optional.map fun v => .str (text v)) := by
  cases optional <;> rfl

end Transfer

end JavaScript
end TradingPlatform
