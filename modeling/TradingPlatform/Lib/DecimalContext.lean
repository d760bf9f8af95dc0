/-
  TradingPlatform.Lib.DecimalContext

  Decimal floating point in a context: numbers of a bounded count of digits, and
  rounding to them, to nearest with ties to even.  Only values are considered,
  not the trailing zeros a number is written with, and rounding bounds the
  exponent below only.

  `round_of_representable`: what a context can represent, it does not round.
-/

import TradingPlatform.Lib.Double

/-- The precision and the exponents of a `decimal` context. -/
structure DecimalContext where
  precision : ℕ
  minExponent : ℤ
  maxExponent : ℤ

namespace DecimalContext

variable (context : DecimalContext)

/-- The place of the last digit of the smallest subnormal number. -/
def tiny : ℤ := context.minExponent - context.precision + 1

/-- The place of the last digit of the greatest number. -/
def top : ℤ := context.maxExponent - context.precision + 1

/-- The number has a coefficient of at most `precision` digits. -/
def Representable (q : ℚ) : Prop :=
  ∃ coefficient exponent : ℤ, |coefficient| < 10 ^ context.precision ∧
    context.tiny ≤ exponent ∧ exponent ≤ context.top ∧ q = coefficient * 10 ^ exponent

/-- The place of the last digit that a result keeps. -/
def lastPlace (q : ℚ) : ℤ := max (Int.log 10 |q| + 1 - context.precision) context.tiny

/-- The nearest number of the context's digits, ties to even. -/
def round (q : ℚ) : ℚ :=
  Double.roundHalfEven (q / 10 ^ context.lastPlace q) * 10 ^ context.lastPlace q

variable {context} {q : ℚ}

theorem round_zero : context.round 0 = 0 := by
  have hzero : Double.roundHalfEven 0 = 0 := by exact_mod_cast Double.roundHalfEven_intCast 0
  rw [round, zero_div, hzero, Int.cast_zero, zero_mul]

/-- The kept places reach down to the exponent of any representation. -/
theorem lastPlace_le {coefficient exponent : ℤ} (hne : coefficient ≠ 0)
    (hdigits : |coefficient| < 10 ^ context.precision) (htiny : context.tiny ≤ exponent) :
    context.lastPlace (coefficient * 10 ^ exponent) ≤ exponent := by
  have hunit : (0 : ℚ) < 10 ^ exponent := zpow_pos (by norm_num) _
  have hpos : 0 < |(coefficient : ℚ) * 10 ^ exponent| :=
    abs_pos.mpr (mul_ne_zero (Int.cast_ne_zero.mpr hne) hunit.ne')
  have hcoefficient : |(coefficient : ℚ)| < 10 ^ (context.precision : ℤ) := by
    rw [zpow_natCast]
    exact_mod_cast hdigits
  have hlt : |(coefficient : ℚ) * 10 ^ exponent| <
      ((10 : ℕ) : ℚ) ^ (context.precision + exponent) := by
    rw [abs_mul, abs_of_pos hunit, Nat.cast_ofNat, zpow_add₀ (by norm_num)]
    exact mul_lt_mul_of_pos_right hcoefficient hunit
  have hlog := (Int.lt_zpow_iff_log_lt (b := 10) (by norm_num) hpos).mp hlt
  exact max_le (by omega) htiny

/-- What a context can represent, it does not round. -/
theorem round_of_representable (h : context.Representable q) : context.round q = q := by
  obtain ⟨coefficient, exponent, hdigits, htiny, -, rfl⟩ := h
  rcases eq_or_ne coefficient 0 with rfl | hne
  · rw [Int.cast_zero, zero_mul, round_zero]
  · obtain ⟨k, hk⟩ := Int.eq_ofNat_of_zero_le
      (sub_nonneg.mpr (lastPlace_le hne hdigits htiny))
    have hunit : (10 : ℚ) ^ context.lastPlace (coefficient * 10 ^ exponent) ≠ 0 :=
      (zpow_pos (by norm_num) _).ne'
    -- the number is a whole count of units in the last place
    have hunits : (coefficient : ℚ) * 10 ^ exponent /
        10 ^ context.lastPlace (coefficient * 10 ^ exponent) =
          ((coefficient * 10 ^ k : ℤ) : ℚ) := by
      rw [mul_div_assoc, ← zpow_sub₀ (by norm_num), hk]
      push_cast
      rfl
    rw [round, hunits, Double.roundHalfEven_intCast, ← hunits, div_mul_cancel₀ _ hunit]

end DecimalContext
