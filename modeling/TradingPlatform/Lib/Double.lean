/-
  TradingPlatform.Lib.Double

  Rounding of rationals to IEEE 754 double precision, to nearest with ties to
  even.  The exponent is bounded below only: a result of magnitude `2^1024` or
  more stands for an infinity.

  - `finite_iff` says which rationals round to a finite double.
  - `exists_nearest_intCast`: an integer rounds to an integer.
  - `nearest_intCast`: one of at most 53 bits rounds to itself.
-/

import Mathlib.Data.Int.Log
import Mathlib.Data.Rat.Floor
import Mathlib.Algebra.Order.Field.Basic
import Mathlib.Tactic.Linarith
import Mathlib.Tactic.NormNum
import Mathlib.Tactic.Positivity

namespace Double

/-- The nearest integer, and the even one of two. -/
def roundHalfEven (q : ℚ) : ℤ :=
  if q - ⌊q⌋ < 1 / 2 then ⌊q⌋
  else if 1 / 2 < q - ⌊q⌋ then ⌊q⌋ + 1
  else if Even ⌊q⌋ then ⌊q⌋
  else ⌊q⌋ + 1

/-- The exponent of the last of 53 bits; a subnormal number has fewer. -/
def lastPlace (q : ℚ) : ℤ := max (Int.log 2 |q|) (-1022) - 52

/-- The nearest double, ties to even, as if the exponent had no upper bound. -/
def nearest (q : ℚ) : ℚ := roundHalfEven (q / 2 ^ lastPlace q) * 2 ^ lastPlace q

/-- The rational rounds to a finite double. -/
def Finite (q : ℚ) : Prop := |nearest q| < 2 ^ 1024

instance (q : ℚ) : Decidable (Finite q) := inferInstanceAs (Decidable (_ < _))

/-- The least magnitude that rounds to an infinity. -/
def overflow : ℚ := 2 ^ 1024 - 2 ^ 970

-- ============================================================================
-- Rounding to an integer
-- ============================================================================

section RoundHalfEven

variable {q : ℚ} {m : ℤ}

theorem roundHalfEven_intCast (n : ℤ) : roundHalfEven n = n := by
  simp [roundHalfEven]

theorem roundHalfEven_error (q : ℚ) : |(roundHalfEven q : ℚ) - q| ≤ 1 / 2 := by
  have hfloor := Int.floor_le q
  have hceil := Int.lt_floor_add_one q
  rw [abs_le]
  unfold roundHalfEven
  split
  · constructor <;> linarith
  · split
    · push_cast
      constructor <;> linarith
    · split
      · constructor <;> linarith
      · push_cast
        constructor <;> linarith

theorem roundHalfEven_sub_half (hm : Even m) : roundHalfEven (m - 1 / 2) = m := by
  have hfloor : ⌊(m : ℚ) - 1 / 2⌋ = m - 1 := by
    rw [Int.floor_eq_iff]
    push_cast
    constructor <;> linarith
  have hhalf : (m : ℚ) - 1 / 2 - (m - 1 : ℤ) = 1 / 2 := by
    push_cast
    ring
  have hodd : ¬ Even (m - 1) := by
    rw [Int.not_even_iff_odd]
    exact hm.sub_odd odd_one
  rw [roundHalfEven, hfloor, hhalf, if_neg (lt_irrefl _), if_neg (lt_irrefl _), if_neg hodd,
    sub_add_cancel]

theorem roundHalfEven_add_half (hm : Even m) : roundHalfEven (m + 1 / 2) = m := by
  have hfloor : ⌊(m : ℚ) + 1 / 2⌋ = m := by
    rw [Int.floor_eq_iff]
    constructor <;> linarith
  have hhalf : (m : ℚ) + 1 / 2 - m = 1 / 2 := by ring
  rw [roundHalfEven, hfloor, hhalf, if_neg (lt_irrefl _), if_neg (lt_irrefl _), if_pos hm]

/-- An even integer is rounded to from half a unit below it. -/
theorem le_roundHalfEven_iff (hm : Even m) : m ≤ roundHalfEven q ↔ (m : ℚ) - 1 / 2 ≤ q := by
  obtain ⟨hlow, hhigh⟩ := abs_le.mp (roundHalfEven_error q)
  constructor
  · intro h
    have hle : (m : ℚ) ≤ roundHalfEven q := by exact_mod_cast h
    linarith
  · intro h
    by_contra hlt
    have hbelow : (roundHalfEven q : ℚ) ≤ m - 1 := by
      exact_mod_cast Int.le_sub_one_of_lt (not_le.mp hlt)
    -- only the tie is left
    obtain rfl : q = m - 1 / 2 := le_antisymm (by linarith) h
    exact hlt (roundHalfEven_sub_half hm).ge

/-- It is rounded to up to half a unit above it. -/
theorem roundHalfEven_le_iff (hm : Even m) : roundHalfEven q ≤ m ↔ q ≤ (m : ℚ) + 1 / 2 := by
  obtain ⟨hlow, hhigh⟩ := abs_le.mp (roundHalfEven_error q)
  constructor
  · intro h
    have hle : (roundHalfEven q : ℚ) ≤ m := by exact_mod_cast h
    linarith
  · intro h
    by_contra hlt
    have habove : (m : ℚ) + 1 ≤ roundHalfEven q := by
      exact_mod_cast Int.add_one_le_of_lt (not_le.mp hlt)
    obtain rfl : q = m + 1 / 2 := le_antisymm h (by linarith)
    exact hlt (roundHalfEven_add_half hm).le

theorem abs_roundHalfEven_lt_iff (hm : Even m) :
    |(roundHalfEven q : ℚ)| < m ↔ |q| < (m : ℚ) - 1 / 2 := by
  have habove : (m : ℚ) ≤ roundHalfEven q ↔ (m : ℚ) - 1 / 2 ≤ q := by
    exact_mod_cast le_roundHalfEven_iff hm
  have hbelow : (roundHalfEven q : ℚ) ≤ -m ↔ q ≤ -m + 1 / 2 := by
    have h := roundHalfEven_le_iff (q := q) hm.neg
    push_cast at h
    exact_mod_cast h
  rw [abs_lt, abs_lt, ← not_le, ← not_le, ← not_le, ← not_le, hbelow, habove]
  ring_nf

end RoundHalfEven

-- ============================================================================
-- Magnitudes
-- ============================================================================

section Magnitudes

variable {q : ℚ}

theorem abs_nearest (q : ℚ) :
    |nearest q| = |(roundHalfEven (q / 2 ^ lastPlace q) : ℚ)| * 2 ^ lastPlace q := by
  have hunit : (0 : ℚ) < 2 ^ lastPlace q := zpow_pos two_pos _
  rw [nearest, abs_mul, abs_of_pos hunit]

/-- A rounded magnitude compared with an even number of units. -/
theorem abs_nearest_lt_iff {m : ℤ} (hm : Even m) :
    |nearest q| < m * 2 ^ lastPlace q ↔ |q| < (m - 1 / 2) * 2 ^ lastPlace q := by
  have hunit : (0 : ℚ) < 2 ^ lastPlace q := zpow_pos two_pos _
  rw [abs_nearest, mul_lt_mul_iff_left₀ hunit, abs_roundHalfEven_lt_iff hm, abs_div,
    abs_of_pos hunit, div_lt_iff₀ hunit]

/-- The last place of a number is 52 binary places below its first. -/
theorem abs_lt_zpow_lastPlace (q : ℚ) : |q| < 2 ^ 53 * 2 ^ lastPlace q := by
  have hlog : |q| < ((2 : ℕ) : ℚ) ^ (Int.log 2 |q| + 1) :=
    Int.lt_zpow_succ_log_self one_lt_two |q|
  have hexponent : Int.log 2 |q| + 1 ≤ 53 + lastPlace q := by
    unfold lastPlace
    omega
  rw [Nat.cast_ofNat] at hlog
  calc |q| < 2 ^ (Int.log 2 |q| + 1) := hlog
    _ ≤ 2 ^ (53 + lastPlace q) := zpow_le_zpow_right₀ one_le_two hexponent
    _ = 2 ^ 53 * 2 ^ lastPlace q := zpow_add₀ two_ne_zero 53 _

theorem lastPlace_of_le {n : ℤ} (hn : -1022 ≤ n) (hq : (2 : ℚ) ^ n ≤ |q|) :
    n - 52 ≤ lastPlace q ∧ (2 : ℚ) ^ 52 * 2 ^ lastPlace q ≤ |q| := by
  have hpos : 0 < |q| := (zpow_pos two_pos n).trans_le hq
  have hle : n ≤ Int.log 2 |q| :=
    (Int.zpow_le_iff_le_log one_lt_two hpos).mp (by rwa [Nat.cast_ofNat])
  have hlog : ((2 : ℕ) : ℚ) ^ Int.log 2 |q| ≤ |q| := Int.zpow_log_le_self one_lt_two hpos
  have hplace : Int.log 2 |q| = 52 + lastPlace q := by
    unfold lastPlace
    omega
  rw [Nat.cast_ofNat, hplace] at hlog
  refine ⟨by omega, ?_⟩
  calc (2 : ℚ) ^ 52 * 2 ^ lastPlace q = 2 ^ (52 + lastPlace q) :=
        (zpow_add₀ two_ne_zero 52 _).symm
    _ ≤ |q| := hlog

theorem lastPlace_le {n : ℤ} (hn : 0 < n) (hq : |q| < (2 : ℚ) ^ n) :
    lastPlace q ≤ n - 53 := by
  have hle : Int.log 2 |q| ≤ max (n - 1) 0 := by
    rcases eq_or_lt_of_le (abs_nonneg q) with hzero | hpos
    · rw [← hzero, Int.log_zero_right]
      exact le_max_right ..
    · have hlt : Int.log 2 |q| < n :=
        (Int.lt_zpow_iff_log_lt one_lt_two hpos).mp (by rwa [Nat.cast_ofNat])
      exact (Int.le_sub_one_of_lt hlt).trans (le_max_left ..)
  unfold lastPlace
  omega

theorem two_pow_eq (m n k : ℕ) (h : m + n = k) : (2 : ℚ) ^ k = 2 ^ m * 2 ^ n := by
  rw [← h, pow_add]

theorem finite_of_lastPlace_le (h : lastPlace q ≤ 970) : Finite q := by
  have hunit : (0 : ℚ) < 2 ^ lastPlace q := zpow_pos two_pos _
  have hrounded : |nearest q| < (2 ^ 54 : ℤ) * 2 ^ lastPlace q := by
    refine (abs_nearest_lt_iff (by decide)).mpr ((abs_lt_zpow_lastPlace q).trans ?_)
    exact mul_lt_mul_of_pos_right (by norm_num) hunit
  have hunits : (2 : ℚ) ^ lastPlace q ≤ 2 ^ (970 : ℤ) := zpow_le_zpow_right₀ one_le_two h
  calc |nearest q| < (2 ^ 54 : ℤ) * 2 ^ lastPlace q := hrounded
    _ ≤ (2 ^ 54 : ℤ) * 2 ^ (970 : ℤ) := mul_le_mul_of_nonneg_left hunits (by norm_num)
    _ = 2 ^ 54 * 2 ^ 970 := by rw [Int.cast_pow]; rfl
    _ = 2 ^ 1024 := (two_pow_eq 54 970 1024 rfl).symm

theorem overflow_eq : overflow = ((2 ^ 53 : ℤ) - 1 / 2) * 2 ^ (971 : ℤ) := by
  have hsum : (2 : ℚ) ^ 1024 = 2 ^ 53 * 2 ^ 971 := two_pow_eq 53 971 1024 rfl
  have hnext : (2 : ℚ) ^ 971 = 2 ^ 1 * 2 ^ 970 := two_pow_eq 1 970 971 rfl
  have hunit : (2 : ℚ) ^ (971 : ℤ) = 2 ^ 971 := rfl
  rw [overflow, hsum, hunit, hnext]
  generalize (2 : ℚ) ^ 970 = unit
  push_cast
  ring

theorem finite_iff_of_lastPlace_eq (h : lastPlace q = 971) : Finite q ↔ |q| < overflow := by
  have hrounded := abs_nearest_lt_iff (q := q) (m := 2 ^ 53) (by decide)
  have hlimit : ((2 ^ 53 : ℤ) : ℚ) * 2 ^ (971 : ℤ) = 2 ^ 1024 := by
    rw [two_pow_eq 53 971 1024 rfl, Int.cast_pow]
    rfl
  rwa [h, hlimit, ← overflow_eq] at hrounded

theorem not_finite_of_le (h : (2 : ℚ) ^ 1024 ≤ |q|) : ¬ Finite q := by
  obtain ⟨hplace, hmagnitude⟩ := lastPlace_of_le (n := 1024) (by decide) h
  have hunit : (0 : ℚ) < 2 ^ lastPlace q := zpow_pos two_pos _
  have hrounded : (2 ^ 52 : ℤ) * 2 ^ lastPlace q ≤ |nearest q| := by
    rw [← not_lt, abs_nearest_lt_iff (by decide), not_lt]
    exact (mul_le_mul_of_nonneg_right (by norm_num) hunit.le).trans hmagnitude
  have hunits : (2 : ℚ) ^ (972 : ℤ) ≤ 2 ^ lastPlace q := zpow_le_zpow_right₀ one_le_two hplace
  refine not_lt.mpr ?_
  calc (2 : ℚ) ^ 1024 = 2 ^ 52 * 2 ^ 972 := two_pow_eq 52 972 1024 rfl
    _ = (2 ^ 52 : ℤ) * 2 ^ (972 : ℤ) := by rw [Int.cast_pow]; rfl
    _ ≤ (2 ^ 52 : ℤ) * 2 ^ lastPlace q := mul_le_mul_of_nonneg_left hunits (by norm_num)
    _ ≤ |nearest q| := hrounded

/-- A rational rounds to a finite double exactly below the overflow threshold. -/
theorem finite_iff : Finite q ↔ |q| < overflow := by
  have htop : (2 : ℚ) ^ 1024 = 2 ^ 54 * 2 ^ 970 := two_pow_eq 54 970 1024 rfl
  have hunit : (0 : ℚ) < 2 ^ 970 := pow_pos two_pos _
  rcases lt_or_ge |q| (2 ^ 1023) with hsmall | hlarge
  · have hthreshold : (2 : ℚ) ^ 1023 < overflow := by
      rw [overflow, htop, two_pow_eq 53 970 1023 rfl, ← sub_one_mul]
      exact mul_lt_mul_of_pos_right (by norm_num) hunit
    exact iff_of_true (finite_of_lastPlace_le (lastPlace_le (n := 1023) (by decide) hsmall))
      (hsmall.trans hthreshold)
  · obtain ⟨hplace, hmagnitude⟩ := lastPlace_of_le (n := 1023) (by decide) hlarge
    rcases eq_or_lt_of_le hplace with heq | hlt
    · exact finite_iff_of_lastPlace_eq heq.symm
    · have hunits : (2 : ℚ) ^ (972 : ℤ) ≤ 2 ^ lastPlace q :=
        zpow_le_zpow_right₀ one_le_two (by omega)
      have hinfinite : (2 : ℚ) ^ 1024 ≤ |q| := by
        calc (2 : ℚ) ^ 1024 = 2 ^ 52 * 2 ^ 972 := two_pow_eq 52 972 1024 rfl
          _ ≤ 2 ^ 52 * 2 ^ lastPlace q := mul_le_mul_of_nonneg_left hunits (by norm_num)
          _ ≤ |q| := hmagnitude
      refine iff_of_false (not_finite_of_le hinfinite) (not_lt.mpr (le_trans ?_ hinfinite))
      exact sub_le_self _ hunit.le

/-- An integer is a whole number of units that are fractions. -/
theorem nearest_intCast_of_lastPlace_nonpos {n : ℤ} (hplace : lastPlace n ≤ 0) :
    nearest n = n := by
  obtain ⟨k, hk⟩ := Int.eq_ofNat_of_zero_le (Int.neg_nonneg_of_nonpos hplace)
  have hunit : (2 : ℚ) ^ lastPlace n ≠ 0 := (zpow_pos two_pos _).ne'
  have hunits : (n : ℚ) / 2 ^ lastPlace n = ((n * 2 ^ k : ℤ) : ℚ) := by
    rw [div_eq_mul_inv, ← zpow_neg, hk]
    push_cast
    rfl
  rw [nearest, hunits, roundHalfEven_intCast, ← hunits, div_mul_cancel₀ _ hunit]

/-- An integer of at most 53 bits is a double. -/
theorem nearest_intCast {n : ℤ} (hn : |n| < 2 ^ 53) : nearest n = n := by
  refine nearest_intCast_of_lastPlace_nonpos ?_
  have hmagnitude : |(n : ℚ)| < 2 ^ (53 : ℤ) := by
    rw [show (2 : ℚ) ^ (53 : ℤ) = ((2 ^ 53 : ℤ) : ℚ) by push_cast; rfl]
    exact_mod_cast hn
  exact lastPlace_le (by decide) hmagnitude

theorem finite_intCast {n : ℤ} (hn : |n| < 2 ^ 53) : Finite n := by
  have hmagnitude : |(n : ℚ)| < 2 ^ 53 := by exact_mod_cast hn
  refine finite_iff.mpr (hmagnitude.trans ?_)
  have htop : (2 : ℚ) ^ 1024 = 2 ^ 54 * 2 ^ 970 := two_pow_eq 54 970 1024 rfl
  have hone : (1 : ℚ) ≤ 2 ^ 970 := one_le_pow₀ one_le_two
  rw [overflow, htop, ← sub_one_mul]
  calc (2 : ℚ) ^ 53 < 2 ^ 54 - 1 := by norm_num
    _ ≤ (2 ^ 54 - 1) * 2 ^ 970 := le_mul_of_one_le_right (by norm_num) hone

/-- An integer rounds to an integer. -/
theorem exists_nearest_intCast (n : ℤ) : ∃ m : ℤ, nearest n = m := by
  rcases le_or_gt 0 (lastPlace n) with hplace | hplace
  · obtain ⟨k, hk⟩ := Int.eq_ofNat_of_zero_le hplace
    refine ⟨roundHalfEven (n / 2 ^ lastPlace n) * 2 ^ k, ?_⟩
    rw [nearest, hk]
    push_cast
    rfl
  · exact ⟨n, nearest_intCast_of_lastPlace_nonpos hplace.le⟩

end Magnitudes

end Double
