/-
  TradingPlatform.Core.Calendar

  `datetime.date` as its proleptic Gregorian ordinal, and the ISO 8601 texts
  that `date.fromisoformat` reads.
-/

import TradingPlatform.Core.Python

namespace TradingPlatform
namespace Python

/-- A `date`: the days since the year 0, so that 0001-01-01 is 1. -/
structure Date where
  ordinal : Nat
deriving DecidableEq, Repr

/-- `_is_leap` -/
def isLeap (year : Nat) : Bool :=
  year % 4 = 0 ∧ (year % 100 ≠ 0 ∨ year % 400 = 0)

/-- `_days_in_month` -/
def daysInMonth (year month : Nat) : Nat :=
  if month = 2 then
    if isLeap year then 29 else 28
  else if month = 4 ∨ month = 6 ∨ month = 9 ∨ month = 11 then
    30
  else
    31

/-- `_days_before_year` -/
def daysBeforeYear (year : Nat) : Nat :=
  (year - 1) * 365 + (year - 1) / 4 - (year - 1) / 100 + (year - 1) / 400

/-- `_days_before_month` -/
def daysBeforeMonth (year month : Nat) : Nat :=
  ((List.range' 1 (month - 1)).map (daysInMonth year)).sum

/-- `date(year, month, day)`; `none` is its `ValueError`. -/
def Date.ofYmd (year month day : Nat) : Option Date :=
  if 1 ≤ year ∧ year ≤ 9999 ∧ 1 ≤ month ∧ month ≤ 12 ∧ 1 ≤ day ∧ day ≤ daysInMonth year month then
    some ⟨daysBeforeYear year + daysBeforeMonth year month + day⟩
  else
    none

/-- The weekday of the first of January, Monday being 0. -/
def firstWeekday (year : Nat) : Nat := (daysBeforeYear year + 1 + 6) % 7

/-- The ordinal of the Monday of the first ISO week. -/
def isoWeek1Monday (year : Nat) : Nat :=
  daysBeforeYear year + 1 + (if firstWeekday year > 3 then 7 else 0) - firstWeekday year

/-- `date.max.toordinal()` -/
def maxOrdinal : Nat := 3652059

/-- The day of an ISO week; `none` is a `ValueError`. -/
def Date.ofIsoWeek (year week day : Nat) : Option Date :=
  let weeks := if firstWeekday year = 3 ∨ (firstWeekday year = 2 ∧ isLeap year) then 53 else 52
  let ordinal := isoWeek1Monday year + (week - 1) * 7 + (day - 1)
  if 1 ≤ year ∧ 1 ≤ week ∧ week ≤ weeks ∧ 1 ≤ day ∧ day ≤ 7 ∧ ordinal ≤ maxOrdinal then
    some ⟨ordinal⟩
  else
    none

/-- `datetime.combine(date, datetime.min.time(), UTC)` -/
def Date.midnight (date : Date) : Timestamp := ((date.ordinal : Int) - 719163) * 86400000000

-- ============================================================================
-- ISO 8601
-- ============================================================================

/-- The value of the next `n` ASCII digits, and the rest. -/
def parseDigits (n : Nat) (chars : List Char) : Option (Nat × List Char) :=
  let digits := chars.take n
  if digits.length = n ∧ digits.all Char.isDigit then
    some (digits.foldl (fun value c => 10 * value + (c.toNat - '0'.toNat)) 0, chars.drop n)
  else
    none

/-- The separator, in the extended format. -/
def parseSeparator (usesSeparator : Bool) (chars : List Char) : Option (List Char) :=
  if usesSeparator then
    if chars.head? = some '-' then some chars.tail else none
  else
    some chars

/-- `_parse_isoformat_date`: a calendar date or a week date, with or without separators. -/
def parseIsoformatDate (chars : List Char) : Option Date := do
  let (year, rest) ← parseDigits 4 chars
  let usesSeparator : Bool := rest.head? = some '-'
  let rest := if usesSeparator then rest.tail else rest
  if rest.head? = some 'W' then
    let (week, rest) ← parseDigits 2 rest.tail
    if rest = [] then
      Date.ofIsoWeek year week 1
    else
      let rest ← parseSeparator usesSeparator rest
      let (day, _) ← parseDigits 1 rest
      Date.ofIsoWeek year week day
  else
    let (month, rest) ← parseDigits 2 rest
    let rest ← parseSeparator usesSeparator rest
    let (day, _) ← parseDigits 2 rest
    Date.ofYmd year month day

/-- `date.fromisoformat(text)`; `none` is its `ValueError`. -/
def Date.fromisoformat (text : String) : Option Date :=
  if text.utf8ByteSize = 7 ∨ text.utf8ByteSize = 8 ∨ text.utf8ByteSize = 10 then
    parseIsoformatDate text.toList
  else
    none

example : Date.fromisoformat "2024-01-02" = Date.fromisoformat "2024W012" := by rfl

end Python
end TradingPlatform
