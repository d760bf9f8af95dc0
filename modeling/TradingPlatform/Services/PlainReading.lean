/-
  TradingPlatform.Services.PlainReading

  The texts of worked examples, read back: a `Decimal` as the fraction that
  `plainRendering` writes, a `datetime` as its number of microseconds.
-/

import TradingPlatform.Core.Pydantic
import TradingPlatform.Services.StrategyPreview

namespace TradingPlatform
namespace Services

open Pydantic

/-- An integer from its digits, after a sign. -/
def plainInteger : List Char → Int
  | '-' :: digits => -(Nat.ofDigitChars 10 digits 0 : Nat)
  | digits => (Nat.ofDigitChars 10 digits 0 : Nat)

/-- A fraction, numerator and denominator on either side of a slash. -/
def plainFraction (text : List Char) : Decimal :=
  plainInteger (text.takeWhile (· ≠ '/')) /
    (Nat.ofDigitChars 10 ((text.dropWhile (· ≠ '/')).drop 1) 0 : Nat)

/-- The values that `plainRendering` writes. -/
def plainReading : Reading where
  bool
    | .bool value => some value
    | _ => none
  int
    | .int value => some value
    | _ => none
  decimal
    | .str text => some (plainFraction text.toList)
    | .int value => some value
    | .number value => some value
    | _ => none
  datetime
    | .str text => some (plainInteger text.toList)
    | _ => none
  number value := some (.inr value)

theorem isDigit_of_mem_toString {n : Nat} {c : Char} (h : c ∈ (toString n).toList) :
    c.isDigit = true := by
  have hdigits : c ∈ Nat.toDigits 10 n := by simpa using h
  exact Nat.isDigit_of_mem_toDigits (by decide : 0 < 10) (by decide) hdigits

theorem plainInteger_toString (i : Int) : plainInteger (toString i).toList = i := by
  cases i with
  | ofNat n =>
      show plainInteger (toString n).toList = n
      unfold plainInteger
      split
      · rename_i digits heq
        have hdigit := isDigit_of_mem_toString (n := n) (c := '-')
          (heq ▸ List.mem_cons_self ..)
        exact absurd hdigit (by decide)
      · simp [Nat.ofDigitChars_toDigits]
  | negSucc n =>
      show plainInteger ("-" ++ toString (n + 1)).toList = Int.negSucc n
      simp [plainInteger, Nat.ofDigitChars_toDigits, Int.negSucc_eq]

theorem ne_slash_of_mem_toString {i : Int} {c : Char} (h : c ∈ (toString i).toList) :
    c ≠ '/' := by
  rintro rfl
  cases i with
  | ofNat n => exact absurd (isDigit_of_mem_toString (n := n) h) (by decide)
  | negSucc n =>
      have hmem : '/' ∈ ("-" ++ toString (n + 1)).toList := h
      rw [String.toList_append, List.mem_append] at hmem
      rcases hmem with hsign | hdigits
      · exact absurd hsign (by decide)
      · exact absurd (isDigit_of_mem_toString hdigits) (by decide)

/-- A fraction is split at its slash. -/
theorem plainFraction_append {numerator denominator : List Char}
    (h : ∀ c ∈ numerator, c ≠ '/') :
    plainFraction (numerator ++ '/' :: denominator) =
      plainInteger numerator / (Nat.ofDigitChars 10 denominator 0 : Nat) := by
  have hkept : ∀ c ∈ numerator, decide (c ≠ '/') = true := fun c hc => decide_eq_true (h c hc)
  rw [plainFraction, List.takeWhile_append_of_pos hkept, List.dropWhile_append_of_pos hkept]
  simp

theorem plainReading_inverts : plainReading.Inverts plainRendering where
  bool _ := rfl
  int _ := rfl
  datetime t := congrArg some (plainInteger_toString t)
  decimal v := by
    have htext : (plainRendering.str v).toList =
        (toString v.num).toList ++ '/' :: (toString v.den).toList := by
      simp [plainRendering]
    have hdenominator : Nat.ofDigitChars 10 (toString v.den).toList 0 = v.den := by
      simp [Nat.ofDigitChars_toDigits]
    show some (plainFraction (plainRendering.str v).toList) = some v
    rw [htext, plainFraction_append fun c => ne_slash_of_mem_toString, plainInteger_toString,
      hdenominator, Rat.num_div_den]

end Services
end TradingPlatform
