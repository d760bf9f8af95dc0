/-
  TradingPlatform.Core.Numerals

  The texts that Python reads as numbers: `str.strip`, `int(text)` and
  `Decimal(text)`, with the decimal digits of every script.
-/

import TradingPlatform.Core.Python
import TradingPlatform.Core.Text

namespace TradingPlatform
namespace Python

/-- `str.isspace` of one character. -/
def isSpace (c : Char) : Bool :=
  (9 ≤ c.val ∧ c.val ≤ 13) ∨ (0x1C ≤ c.val ∧ c.val ≤ 0x20) ∨ c.val = 0x85 ∨ c.val = 0xA0 ∨
    c.val = 0x1680 ∨ (0x2000 ≤ c.val ∧ c.val ≤ 0x200A) ∨ c.val = 0x2028 ∨ c.val = 0x2029 ∨
    c.val = 0x202F ∨ c.val = 0x205F ∨ c.val = 0x3000

/-- `text.strip()` -/
def strip (text : String) : String := stripWhere isSpace text

-- ============================================================================
-- Digits
-- ============================================================================

/-- The code points of the zeros of the Unicode category `Nd`. -/
def digitZeros : List Nat :=
  [0x30, 0x660, 0x6F0, 0x7C0, 0x966, 0x9E6, 0xA66, 0xAE6, 0xB66, 0xBE6, 0xC66, 0xCE6, 0xD66,
    0xDE6, 0xE50, 0xED0, 0xF20, 0x1040, 0x1090, 0x17E0, 0x1810, 0x1946, 0x19D0, 0x1A80, 0x1A90,
    0x1B50, 0x1BB0, 0x1C40, 0x1C50, 0xA620, 0xA8D0, 0xA900, 0xA9D0, 0xA9F0, 0xAA50, 0xABF0,
    0xFF10, 0x104A0, 0x10D30, 0x11066, 0x110F0, 0x11136, 0x111D0, 0x112F0, 0x11450, 0x114D0,
    0x11650, 0x116C0, 0x11730, 0x118E0, 0x11950, 0x11C50, 0x11D50, 0x11DA0, 0x11F50, 0x16A60,
    0x16AC0, 0x16B50, 0x1D7CE, 0x1D7D8, 0x1D7E2, 0x1D7EC, 0x1D7F6, 0x1E140, 0x1E2F0, 0x1E4F0,
    0x1E950, 0x1FBF0]

/-- `unicodedata.decimal` of a character. -/
def decimalDigit (c : Char) : Option Nat :=
  digitZeros.findSome? fun first =>
    if first ≤ c.toNat ∧ c.toNat < first + 10 then some (c.toNat - first) else none

/-- The value of a digit string, the most significant digit first. -/
def digitsValue (digits : List Nat) : Nat := digits.foldl (fun value digit => 10 * value + digit) 0

/-- A leading sign: whether it is a minus, and the rest. -/
def splitSign : List Char → Bool × List Char
  | '+' :: rest => (false, rest)
  | '-' :: rest => (true, rest)
  | chars => (false, chars)

-- ============================================================================
-- `int(text)`
-- ============================================================================

/-- Digits with single underscores between them; `afterDigit` if one precedes. -/
def groupedDigits (afterDigit : Bool) : List Char → Option (List Nat)
  | [] => if afterDigit then some [] else none
  | c :: rest =>
      if c = '_' then
        if afterDigit then groupedDigits false rest else none
      else do
        let digit ← decimalDigit c
        let digits ← groupedDigits true rest
        return digit :: digits

/-- `sys.int_info.default_max_str_digits` -/
def maxStrDigits : Nat := 4300

/-- `int(text)`; `none` is its `ValueError`. -/
def intOfText (text : String) : Option Int := do
  let (negative, chars) := splitSign (strip text).toList
  let digits ← groupedDigits false chars
  if digits.length ≤ maxStrDigits then
    return if negative then -(digitsValue digits : Int) else digitsValue digits
  else
    none

-- ============================================================================
-- `Decimal(text)`
-- ============================================================================

/-- A `Decimal` that was read: a number, or an infinity or a NaN. -/
inductive DecimalNumeral where
  | finite (value : Decimal)
  | special
deriving DecidableEq, Repr

/-- The longest digit string that a text begins with, and the rest. -/
def spanDigits : List Char → List Nat × List Char
  | [] => ([], [])
  | c :: rest =>
      match decimalDigit c with
      | some digit => (digit :: (spanDigits rest).1, (spanDigits rest).2)
      | none => ([], c :: rest)

/-- `[e[sign]digits]`, to the end. -/
def exponentOfText : List Char → Option Int
  | [] => some 0
  | c :: rest =>
      let (negative, chars) := splitSign rest
      let (digits, rest) := spanDigits chars
      if (c = 'e' ∨ c = 'E') ∧ digits ≠ [] ∧ rest = [] then
        some (if negative then -(digitsValue digits : Int) else digitsValue digits)
      else
        none

/-- `coefficient * 10 ** exponent` -/
def scaled (coefficient : Int) (exponent : Int) : Decimal :=
  if 0 ≤ exponent then
    mkRat (coefficient * 10 ^ exponent.toNat) 1
  else
    mkRat coefficient (10 ^ (-exponent).toNat)

/-- An unsigned number; an exponent out of the range of the decimal module is an error. -/
def unsignedDecimal (negative : Bool) (chars : List Char) : Option Decimal := do
  let (whole, rest) := spanDigits chars
  let (fraction, rest) := match rest with
    | '.' :: rest => spanDigits rest
    | rest => ([], rest)
  let digits := whole ++ fraction
  if digits = [] then
    none
  else
    let exponent := (← exponentOfText rest) - fraction.length
    let significant := max 1 (digits.dropWhile (· = 0)).length
    if -1999999999999999997 ≤ exponent ∧ exponent + significant - 1 ≤ 999999999999999999 then
      let coefficient : Int := digitsValue digits
      return scaled (if negative then -coefficient else coefficient) exponent
    else
      none

/-- `inf`, `infinity`, `nan` and `snan`, the last two with a payload. -/
def isSpecial (chars : List Char) : Bool :=
  let word := chars.map Char.toLower
  word = "inf".toList ∨ word = "infinity".toList ∨
    ("nan".toList.isPrefixOf word ∧ (spanDigits (word.drop 3)).2 = []) ∨
    ("snan".toList.isPrefixOf word ∧ (spanDigits (word.drop 4)).2 = [])

/-- `Decimal(text)`; `none` is its `InvalidOperation`.  Underscores are not read. -/
def decimalOfText (text : String) : Option DecimalNumeral :=
  let (negative, chars) := splitSign ((strip text).toList.filter (· ≠ '_'))
  if isSpecial chars then
    some .special
  else
    (unsignedDecimal negative chars).map .finite

example : decimalOfText " 1_0.50E-1 " = some (.finite (21 / 20)) := by
  decide +kernel

end Python
end TradingPlatform
