/-
  TradingPlatform.Services.PercentPatterns

  What the percentage patterns match, apart from where a match is found.

  A percentage is a numeral and a percent sign (`Numeral`, `percentSign`).  No
  character of a numeral is a blank, a letter or a percent sign, so its end is
  where the percent sign begins, and it is determined by what surrounds it.
-/

import TradingPlatform.Lib.JoinedText
import TradingPlatform.Services.TextPatterns

namespace TradingPlatform
namespace Services

open Python Regex Pattern JoinedText

-- ============================================================================
-- Characters
-- ============================================================================

/-- A character that a numeral can have. -/
def isNumeral (c : Char) : Bool := isDigit c || isSign c || c = '.'

/-- The letter of a pattern that a character matches, if any. -/
def baseLetter (c : Char) : Char :=
  if c = '\u017f' then 's'
  else if c = '\u212a' then 'k'
  else if c = '\u0130' || c = '\u0131' then 'i'
  else c.toLower

theorem letter_cases {c d : Char} (h : letter c d = true) :
    d.toLower = c ∨ (c = 's' ∧ d = '\u017f') ∨ (c = 'k' ∧ d = '\u212a') ∨
      (c = 'i' ∧ (d = '\u0130' ∨ d = '\u0131')) := by
  simpa only [letter, Bool.or_eq_true, Bool.and_eq_true, decide_eq_true_eq, or_assoc] using h

/-- A character matches one letter only. -/
theorem baseLetter_of_letter {c d : Char} (hc : c.isLower = true) (h : letter c d = true) :
    baseLetter d = c := by
  rcases letter_cases h with rfl | ⟨rfl, rfl⟩ | ⟨rfl, rfl⟩ | ⟨rfl, rfl | rfl⟩
  · -- the characters outside of ASCII are their own lower case here
    have hne {other : Char} (hother : other.toLower.isLower = false) : d ≠ other := by
      rintro rfl
      rw [hother] at hc
      cases hc
    have hs : d ≠ '\u017f' := hne (by decide)
    have hk : d ≠ '\u212a' := hne (by decide)
    have hi : d ≠ '\u0130' := hne (by decide)
    have hj : d ≠ '\u0131' := hne (by decide)
    simp only [baseLetter, hs, hk, hi, hj, if_false, decide_false, Bool.or_self,
      Bool.false_eq_true]
  all_goals decide

theorem letter_unique {c c' d : Char} (hc : c.isLower = true) (hc' : c'.isLower = true)
    (h : letter c d = true) (h' : letter c' d = true) : c = c' := by
  rw [← baseLetter_of_letter hc h, baseLetter_of_letter hc' h']

/-- The code points of the characters that some letter matches. -/
theorem toNat_of_letter {c d : Char} (hc : c.isLower = true) (h : letter c d = true) :
    (65 ≤ d.toNat ∧ d.toNat ≤ 90) ∨ (97 ≤ d.toNat ∧ d.toNat ≤ 122) ∨
      d.toNat ∈ [0x17f, 0x212a, 0x130, 0x131] := by
  rcases letter_cases h with rfl | ⟨rfl, rfl⟩ | ⟨rfl, rfl⟩ | ⟨rfl, rfl | rfl⟩
  · by_cases hupper : d.isUpper = true
    · exact .inl (isUpper_iff.mp hupper)
    · rw [toLower_of_not_isUpper hupper] at hc
      exact .inr (.inl (isLower_iff.mp hc))
  all_goals decide

theorem isDigit_iff {c : Char} :
    isDigit c = true ↔ ∃ first ∈ digitZeros, first ≤ c.toNat ∧ c.toNat < first + 10 := by
  unfold isDigit decimalDigit
  rw [List.findSome?_isSome_iff]
  refine exists_congr fun first => and_congr_right fun _ => ?_
  split <;> simp [*]

/-- The digits of every script lie outside of these ranges. -/
theorem isDigit_eq_false {c : Char} (h : c.toNat < 0x30 ∨ (0x3a ≤ c.toNat ∧ c.toNat < 0x660) ∨
    (0x1090 + 10 ≤ c.toNat ∧ c.toNat < 0x17e0) ∨ (0x1c50 + 10 ≤ c.toNat ∧ c.toNat < 0xa620)) :
    isDigit c = false := by
  have hzeros : ∀ first ∈ digitZeros, first = 0x30 ∨ (0x660 ≤ first ∧ first ≤ 0x1090) ∨
      (0x17e0 ≤ first ∧ first ≤ 0x1c50) ∨ 0xa620 ≤ first := by decide
  rw [Bool.eq_false_iff]
  intro hdigit
  obtain ⟨first, hmem, hlow, hhigh⟩ := isDigit_iff.mp hdigit
  have hfirst := hzeros first hmem
  omega

theorem toNat_of_isSpace {c : Char} (h : isSpace c = true) :
    c.toNat ≤ 0x20 ∨ c.toNat = 0x85 ∨ c.toNat = 0xa0 ∨ c.toNat = 0x1680 ∨
      (0x2000 ≤ c.toNat ∧ c.toNat ≤ 0x205f) ∨ c.toNat = 0x3000 := by
  simp only [isSpace, decide_eq_true_eq, UInt32.le_iff_toNat_le,
    ← UInt32.toNat_inj, UInt32.reduceToNat] at h
  simp only [← Char.toNat_val]
  omega

theorem isDigit_of_isSpace {c : Char} (h : isSpace c = true) : isDigit c = false := by
  have hspace := toNat_of_isSpace h
  exact isDigit_eq_false (by omega)

section Letters

variable {c d : Char}

theorem isDigit_of_letter (hc : c.isLower = true) (h : letter c d = true) :
    isDigit d = false := by
  refine isDigit_eq_false ?_
  have hletter := toNat_of_letter hc h
  simp only [List.mem_cons, List.not_mem_nil, or_false] at hletter
  omega

theorem isSpace_of_letter (hc : c.isLower = true) (h : letter c d = true) :
    isSpace d = false := by
  rw [Bool.eq_false_iff]
  intro hspace
  have hletter := toNat_of_letter hc h
  have hcode := toNat_of_isSpace hspace
  simp only [List.mem_cons, List.not_mem_nil, or_false] at hletter
  omega

theorem isNumeral_cases (h : isNumeral d = true) :
    isDigit d = true ∨ isSign d = true ∨ d = '.' := by
  simpa only [isNumeral, Bool.or_eq_true, decide_eq_true_eq, or_assoc] using h

theorem isSign_iff : isSign d = true ↔ d = '+' ∨ d = '-' := by
  simp only [isSign, Bool.or_eq_true, decide_eq_true_eq]

theorem isNumeral_of_isSpace (h : isSpace d = true) : isNumeral d = false := by
  rw [Bool.eq_false_iff]
  intro hnumeral
  rcases isNumeral_cases hnumeral with hdigit | hsign | rfl
  · rw [isDigit_of_isSpace h] at hdigit
    cases hdigit
  · rcases isSign_iff.mp hsign with rfl | rfl <;> exact absurd h (by decide)
  · exact absurd h (by decide)

theorem isNumeral_of_letter (hc : c.isLower = true) (h : letter c d = true) :
    isNumeral d = false := by
  have hletter := toNat_of_letter hc h
  rw [Bool.eq_false_iff]
  intro hnumeral
  rcases isNumeral_cases hnumeral with hdigit | hsign | rfl
  · rw [isDigit_of_letter hc h] at hdigit
    cases hdigit
  · rcases isSign_iff.mp hsign with rfl | rfl <;> exact absurd hletter (by decide)
  · exact absurd hletter (by decide)

theorem isDigit_of_isSign (h : isSign d = true) : isDigit d = false := by
  rcases isSign_iff.mp h with rfl | rfl <;> exact isDigit_eq_false (by decide)

theorem isDigit_point : isDigit '.' = false := isDigit_eq_false (by decide)

theorem isSign_of_isDigit (h : isDigit d = true) : isSign d = false := by
  rw [Bool.eq_false_iff]
  intro hsign
  rw [isDigit_of_isSign hsign] at h
  cases h

theorem ne_point_of_isDigit (h : isDigit d = true) : d ≠ '.' := by
  rintro rfl
  rw [isDigit_point] at h
  cases h

end Letters

/-- The word characters of worked examples: ASCII ones, all digits and what `IGNORECASE` adds
    to the letters. -/
def plainWord (c : Char) : Bool :=
  isDigit c || c.isAlpha || c = '_' || c ∈ ['\u017f', '\u212a', '\u0130', '\u0131']

theorem plainWord_wordClass : WordClass plainWord where
  letter c d hc h := by
    unfold plainWord
    rcases letter_cases h with rfl | ⟨-, rfl⟩ | ⟨-, rfl⟩ | ⟨-, rfl | rfl⟩
    · have halpha : d.isAlpha = true := by
        rw [isAlpha_iff]
        by_cases hupper : d.isUpper = true
        · exact .inl hupper
        · rw [toLower_of_not_isUpper hupper] at hc
          exact .inr hc
      simp only [halpha, Bool.or_true, Bool.true_or]
    all_goals simp
  digit c h := by
    unfold plainWord
    rw [h]
    rfl

/-- The letters and digits of the class: an underscore is punctuation. -/
def alphanumeric (word : Char → Bool) (c : Char) : Bool := word c && c != '_'

theorem WordClass.alphanumeric {word : Char → Bool} (hword : WordClass word) :
    WordClass (alphanumeric word) where
  letter c d hc h := by
    have hne : d ≠ '_' := by
      rintro rfl
      exact absurd (toNat_of_letter hc h) (by decide)
    rw [Services.alphanumeric, hword.letter c d hc h, bne_iff_ne.mpr hne, Bool.and_true]
  digit c h := by
    have hne : c ≠ '_' := by
      rintro rfl
      exact absurd h (by decide)
    rw [Services.alphanumeric, hword.digit c h, bne_iff_ne.mpr hne, Bool.and_true]

-- ============================================================================
-- Numerals
-- ============================================================================

/-- `\d+` -/
def Digits (text : List Char) : Prop := text ≠ [] ∧ ∀ c ∈ text, isDigit c = true

/-- `\s*` -/
def Blanks (text : List Char) : Prop := ∀ c ∈ text, isSpace c = true

/-- `\d+(?:\.\d+)?|\.\d+` -/
inductive Magnitude : List Char → Prop where
  | whole {whole : List Char} (h : Digits whole) : Magnitude whole
  | decimal {whole fraction : List Char} (hwhole : Digits whole) (hfraction : Digits fraction) :
      Magnitude (whole ++ '.' :: fraction)
  | fraction {fraction : List Char} (h : Digits fraction) : Magnitude ('.' :: fraction)

/-- `[+-]?` and a magnitude. -/
inductive Numeral : List Char → Prop where
  | unsigned {magnitude : List Char} (h : Magnitude magnitude) : Numeral magnitude
  | signed {sign : Char} {magnitude : List Char} (hsign : isSign sign = true)
      (h : Magnitude magnitude) : Numeral (sign :: magnitude)

/-- The numeral begins with a sign. -/
def HasSign (numeral : List Char) : Prop := ∃ c ∈ numeral.head?, isSign c = true

section Numerals

variable {pre body post : List Char} {captures : List Capture}

theorem matches_digits :
    (several isDigit).Matches pre body post captures ↔ Digits body ∧ captures = [] := by
  rw [matches_several]
  exact and_assoc.symm

theorem matches_magnitude :
    (Pattern.alt
      (.seq (several isDigit) (optional (.seq (.set (· = '.')) (several isDigit))))
      (.seq (.set (· = '.')) (several isDigit))).Matches pre body post captures ↔
      Magnitude body ∧ captures = [] := by
  constructor
  · rintro (⟨whole, rest, _, _, rfl, rfl, hwhole, hrest | ⟨rfl, rfl⟩⟩ | hfraction)
    · obtain ⟨point, fraction, _, _, rfl, rfl, ⟨⟨c, rfl, hc⟩, rfl⟩, hfraction⟩ := hrest
      obtain ⟨hdigits, rfl⟩ := matches_digits.mp hwhole
      obtain ⟨hdecimals, rfl⟩ := matches_digits.mp hfraction
      obtain rfl := of_decide_eq_true hc
      exact ⟨.decimal hdigits hdecimals, rfl⟩
    · obtain ⟨hdigits, rfl⟩ := matches_digits.mp hwhole
      rw [List.append_nil]
      exact ⟨.whole hdigits, rfl⟩
    · obtain ⟨point, fraction, _, _, rfl, rfl, ⟨⟨c, rfl, hc⟩, rfl⟩, hfraction⟩ := hfraction
      obtain ⟨hdecimals, rfl⟩ := matches_digits.mp hfraction
      obtain rfl := of_decide_eq_true hc
      exact ⟨.fraction hdecimals, rfl⟩
  · rintro ⟨hmagnitude, rfl⟩
    cases hmagnitude with
    | whole h =>
        exact .inl ⟨body, [], [], [], (List.append_nil _).symm, rfl,
          matches_digits.mpr ⟨h, rfl⟩, .inr ⟨rfl, rfl⟩⟩
    | decimal hwhole hfraction =>
        exact .inl ⟨_, _, [], [], rfl, rfl, matches_digits.mpr ⟨hwhole, rfl⟩,
          .inl ⟨['.'], _, [], [], rfl, rfl, ⟨⟨'.', rfl, rfl⟩, rfl⟩,
            matches_digits.mpr ⟨hfraction, rfl⟩⟩⟩
    | fraction h =>
        exact .inr ⟨['.'], _, [], [], rfl, rfl, ⟨⟨'.', rfl, rfl⟩, rfl⟩,
          matches_digits.mpr ⟨h, rfl⟩⟩

theorem matches_numeral :
    numeralPattern.Matches pre body post captures ↔ Numeral body ∧ captures = [] := by
  constructor
  · rintro ⟨sign, magnitude, _, _, rfl, rfl, ⟨⟨c, rfl, hc⟩, rfl⟩ | ⟨rfl, rfl⟩, hmagnitude⟩
    · obtain ⟨hnumber, rfl⟩ := matches_magnitude.mp hmagnitude
      exact ⟨.signed hc hnumber, rfl⟩
    · obtain ⟨hnumber, rfl⟩ := matches_magnitude.mp hmagnitude
      exact ⟨.unsigned hnumber, rfl⟩
  · rintro ⟨hnumeral, rfl⟩
    cases hnumeral with
    | unsigned h =>
        exact ⟨[], body, [], [], rfl, rfl, .inr ⟨rfl, rfl⟩, matches_magnitude.mpr ⟨h, rfl⟩⟩
    | signed hsign h =>
        exact ⟨[_], _, [], [], rfl, rfl, .inl ⟨⟨_, rfl, hsign⟩, rfl⟩,
          matches_magnitude.mpr ⟨h, rfl⟩⟩

end Numerals

-- ============================================================================
-- The characters of a numeral
-- ============================================================================

section NumeralFacts

variable {magnitude numeral front : List Char}

theorem isNumeral_of_isDigit {c : Char} (h : isDigit c = true) : isNumeral c = true := by
  unfold isNumeral
  rw [h]
  rfl

theorem Digits.concat (h : Digits magnitude) :
    ∃ front c, magnitude = front ++ [c] ∧ isDigit c = true := by
  refine ⟨magnitude.dropLast, magnitude.getLast h.1, ?_, h.2 _ (List.getLast_mem h.1)⟩
  exact (List.dropLast_append_getLast h.1).symm

theorem Digits.count_point (h : Digits magnitude) : magnitude.count '.' = 0 :=
  List.count_eq_zero.mpr fun hmem => ne_point_of_isDigit (h.2 _ hmem) rfl

/-- Digits, and at most one point. -/
theorem Magnitude.chars (h : Magnitude magnitude) :
    (∀ c ∈ magnitude, isDigit c = true ∨ c = '.') ∧ magnitude.count '.' ≤ 1 := by
  have hdigits {digits : List Char} (hdigits : Digits digits) :
      ∀ c ∈ digits, isDigit c = true ∨ c = '.' := fun c hc => .inl (hdigits.2 c hc)
  cases h with
  | whole h => exact ⟨hdigits h, by rw [h.count_point]; exact Nat.zero_le _⟩
  | decimal hwhole hfraction =>
      refine ⟨List.forall_mem_append.mpr ⟨hdigits hwhole,
        List.forall_mem_cons.mpr ⟨.inr rfl, hdigits hfraction⟩⟩, ?_⟩
      rw [List.count_append, List.count_cons_self, hwhole.count_point, hfraction.count_point]
  | fraction h =>
      refine ⟨List.forall_mem_cons.mpr ⟨.inr rfl, hdigits h⟩, ?_⟩
      rw [List.count_cons_self, h.count_point]

theorem Magnitude.concat (h : Magnitude magnitude) :
    ∃ front c, magnitude = front ++ [c] ∧ isDigit c = true := by
  cases h with
  | whole h => exact h.concat
  | @decimal whole _ _ hfraction =>
      obtain ⟨front, c, rfl, hc⟩ := hfraction.concat
      exact ⟨whole ++ '.' :: front, c, by rw [List.append_assoc, List.cons_append], hc⟩
  | fraction h =>
      obtain ⟨front, c, rfl, hc⟩ := h.concat
      exact ⟨'.' :: front, c, rfl, hc⟩

theorem Magnitude.not_isSign (h : Magnitude magnitude) : ∀ c ∈ magnitude, isSign c = false := by
  intro c hc
  rcases h.chars.1 c hc with hdigit | rfl
  · exact isSign_of_isDigit hdigit
  · decide

theorem Magnitude.cons_digit {d : Char} (hd : isDigit d = true) (h : Magnitude magnitude) :
    Magnitude (d :: magnitude) := by
  have hcons {digits : List Char} (h : Digits digits) : Digits (d :: digits) :=
    ⟨List.cons_ne_nil _ _, List.forall_mem_cons.mpr ⟨hd, h.2⟩⟩
  cases h with
  | whole h => exact .whole (hcons h)
  | decimal hwhole hfraction => exact .decimal (hcons hwhole) hfraction
  | @fraction fraction h =>
      have hone : Digits [d] := ⟨List.cons_ne_nil _ _, List.forall_mem_singleton.mpr hd⟩
      have hdecimal : Magnitude ([d] ++ '.' :: fraction) := .decimal hone h
      exact hdecimal

theorem Magnitude.digits (h : Magnitude magnitude) (hpoint : '.' ∉ magnitude) :
    Digits magnitude := by
  cases h with
  | whole h => exact h
  | decimal hwhole hfraction =>
      exact absurd (List.mem_append_right _ (List.mem_cons_self ..)) hpoint
  | fraction h => exact absurd (List.mem_cons_self ..) hpoint

theorem Numeral.toMagnitude (h : Numeral numeral) (hsign : ∀ c ∈ numeral.head?, isSign c = false) :
    Magnitude numeral := by
  cases h with
  | unsigned h => exact h
  | @signed sign _ hsigned h =>
      have hhead := hsign sign rfl
      rw [hsigned] at hhead
      cases hhead

theorem Numeral.isNumeral (h : Numeral numeral) : ∀ c ∈ numeral, isNumeral c = true := by
  have hmagnitude {magnitude : List Char} (h : Magnitude magnitude) :
      ∀ c ∈ magnitude, Services.isNumeral c = true := by
    intro c hc
    rcases h.chars.1 c hc with hdigit | rfl
    · exact isNumeral_of_isDigit hdigit
    · decide
  cases h with
  | unsigned h => exact hmagnitude h
  | signed hsign h =>
      refine List.forall_mem_cons.mpr ⟨?_, hmagnitude h⟩
      unfold Services.isNumeral
      rw [hsign, Bool.or_true, Bool.true_or]

theorem Numeral.concat (h : Numeral numeral) :
    ∃ front c, numeral = front ++ [c] ∧ isDigit c = true := by
  cases h with
  | unsigned h => exact h.concat
  | @signed sign _ _ h =>
      obtain ⟨front, c, rfl, hc⟩ := h.concat
      exact ⟨sign :: front, c, rfl, hc⟩

theorem Numeral.ne_nil (h : Numeral numeral) : numeral ≠ [] := by
  obtain ⟨front, c, rfl, -⟩ := h.concat
  exact List.append_ne_nil_of_right_ne_nil _ (List.cons_ne_nil _ _)

theorem Numeral.count_point (h : Numeral numeral) : numeral.count '.' ≤ 1 := by
  cases h with
  | unsigned h => exact h.chars.2
  | @signed sign _ hsign h =>
      have hne : sign ≠ '.' := by
        rintro rfl
        exact absurd hsign (by decide)
      rw [List.count_cons_of_ne hne]
      exact h.chars.2

/-- A sign stands at the beginning of a numeral. -/
theorem Numeral.not_isSign_of_append (h : Numeral (front ++ numeral)) (hfront : front ≠ []) :
    ∀ c ∈ numeral, isSign c = false := by
  obtain ⟨first, front, rfl⟩ := List.exists_cons_of_ne_nil hfront
  intro c hc
  generalize htext : first :: front ++ numeral = text at h
  cases h with
  | unsigned h => exact h.not_isSign c (htext ▸ List.mem_append_right _ hc)
  | signed hsign h =>
      obtain ⟨-, rfl⟩ := List.cons.inj htext
      exact h.not_isSign c (List.mem_append_right _ hc)

theorem not_hasSign (h : ¬ HasSign numeral) : ∀ c ∈ numeral.head?, isSign c = false :=
  fun c hc => Bool.eq_false_iff.mpr fun hsign => h ⟨c, hc, hsign⟩

theorem Numeral.not_hasSign_of_append (h : Numeral (front ++ numeral)) (hfront : front ≠ []) :
    ¬ HasSign numeral := by
  rintro ⟨c, hc, hsign⟩
  rw [h.not_isSign_of_append hfront c (List.mem_of_mem_head? hc)] at hsign
  cases hsign

theorem Numeral.point_notMem_of_append (h : Numeral (front ++ numeral)) (hfront : '.' ∈ front) :
    '.' ∉ numeral := by
  intro hmem
  have hcount := h.count_point
  have hone := List.count_pos_iff.mpr hfront
  have hother := List.count_pos_iff.mpr hmem
  rw [List.count_append] at hcount
  omega

/-- A numeral begins where the text before it has none of its characters at the end. -/
theorem Numeral.front_eq_nil {pre : List Char} (h : Numeral (front ++ numeral))
    (hlast : ∀ c ∈ (pre ++ front).getLast?, Services.isNumeral c = false) : front = [] := by
  by_contra hne
  have hnot := hlast (front.getLast hne) (by
    rw [List.getLast?_append_of_ne_nil _ hne]
    exact List.getLast?_eq_some_getLast hne)
  rw [h.isNumeral _ (List.mem_append_left _ (List.getLast_mem hne))] at hnot
  cases hnot

/-- A digit before a numeral without a sign is part of it. -/
theorem Numeral.cons_digit {d : Char} (hd : isDigit d = true) (h : Numeral numeral)
    (hsign : ∀ c ∈ numeral.head?, isSign c = false) : Numeral (d :: numeral) :=
  .unsigned ((h.toMagnitude hsign).cons_digit hd)

/-- So is a point before a whole number. -/
theorem Numeral.cons_point (h : Numeral numeral) (hsign : ∀ c ∈ numeral.head?, isSign c = false)
    (hpoint : '.' ∉ numeral) : Numeral ('.' :: numeral) :=
  .unsigned (.fraction ((h.toMagnitude hsign).digits hpoint))

/-- A text in which no numeral ends: no digits, and something else than a sign or a point at its
    end. -/
structure Clear (text : List Char) : Prop where
  not_isDigit : ∀ c ∈ text, isDigit c = false
  last : ∀ c ∈ text.getLast?, isNumeral c = false

theorem Clear.of_append {first second : List Char} (h : Clear (first ++ second)) :
    Clear second := by
  refine ⟨fun c hc => h.not_isDigit c (List.mem_append_right _ hc), fun c hc => h.last c ?_⟩
  rw [List.getLast?_append, hc]
  rfl

/-- No numeral begins where a clear text does. -/
theorem Clear.append_ne {text after rest : List Char} (h : Clear text) (hne : text ≠ [])
    (hnumeral : Numeral numeral) : text ++ after ≠ numeral ++ rest := by
  intro heq
  rcases List.append_eq_append_iff.mp heq with ⟨more, rfl, -⟩ | ⟨more, rfl, -⟩
  · have hlast := h.last _ (List.getLast?_eq_some_getLast hne)
    rw [hnumeral.isNumeral _ (List.mem_append_left _ (List.getLast_mem hne))] at hlast
    cases hlast
  · obtain ⟨front, c, rfl, hc⟩ := hnumeral.concat
    have hmem : c ∈ front ++ [c] ++ more := by simp
    rw [h.not_isDigit c hmem] at hc
    cases hc

/-- The numeral after a clear text is determined. -/
theorem Clear.numeral_unique {first second numeral' rest rest' : List Char} (hfirst : Clear first)
    (hsecond : Clear second) (hnumeral : Numeral numeral) (hnumeral' : Numeral numeral')
    (hrest : ∀ c ∈ rest.head?, isNumeral c = false)
    (hrest' : ∀ c ∈ rest'.head?, isNumeral c = false)
    (h : first ++ (numeral ++ rest) = second ++ (numeral' ++ rest')) :
    first = second ∧ numeral = numeral' ∧ rest = rest' := by
  have hsame : first = second := by
    rcases List.append_eq_append_iff.mp h with ⟨more, rfl, heq⟩ | ⟨more, rfl, heq⟩
    · by_cases hmore : more = []
      · rw [hmore, List.append_nil]
      · exact absurd heq.symm (hsecond.of_append.append_ne hmore hnumeral)
    · by_cases hmore : more = []
      · rw [hmore, List.append_nil]
      · exact absurd heq.symm (hfirst.of_append.append_ne hmore hnumeral')
  subst hsame
  exact ⟨rfl, JoinedText.append_class_inj hnumeral.isNumeral hnumeral'.isNumeral hrest hrest'
    (List.append_cancel_left h)⟩

end NumeralFacts

-- ============================================================================
-- Spelled phrases
-- ============================================================================

/-- One character of each class, in this order. -/
def Spelled (phrase : List (Char → Bool)) (text : List Char) : Prop :=
  List.Forall₂ (fun p c => p c = true) phrase text

/-- A class of the characters of one letter. -/
def Lettered (p : Char → Bool) : Prop := ∃ c : Char, c.isLower = true ∧ p = letter c

/-- The text begins with a letter, of either case. -/
def BeginsWithLetter (text : List Char) : Prop :=
  ∃ c rest l, text = c :: rest ∧ l.isLower = true ∧ letter l c = true

/-- The text ends with a letter, of either case. -/
def EndsWithLetter (text : List Char) : Prop :=
  ∃ front c l, text = front ++ [c] ∧ l.isLower = true ∧ letter l c = true

section Spelled

variable {phrase phrase' : List (Char → Bool)} {p : Char → Bool} {text : List Char}

theorem lettered_of_mem_letters {spelling : String}
    (hspelling : ∀ c ∈ spelling.toList, c.isLower = true) :
    ∀ p ∈ letters spelling, Lettered p := by
  intro p hp
  obtain ⟨c, hc, rfl⟩ := List.mem_map.mp hp
  exact ⟨c, hspelling c hc, rfl⟩

theorem Spelled.of_mem (h : Spelled phrase text) {c : Char} (hc : c ∈ text) :
    ∃ p ∈ phrase, p c = true := by
  induction h with
  | nil => cases hc
  | @cons p d phrase text hd _ ih =>
      rcases List.mem_cons.mp hc with rfl | hmem
      · exact ⟨p, List.mem_cons_self .., hd⟩
      · obtain ⟨q, hq, hqc⟩ := ih hmem
        exact ⟨q, List.mem_cons_of_mem _ hq, hqc⟩

theorem spelled_append : Spelled (phrase ++ phrase') text ↔
    ∃ first second, text = first ++ second ∧ Spelled phrase first ∧ Spelled phrase' second := by
  constructor
  · intro h
    induction phrase generalizing text with
    | nil => exact ⟨[], text, rfl, .nil, h⟩
    | cons p phrase ih =>
        cases h with
        | @cons _ c _ text hc h =>
            obtain ⟨first, second, rfl, hfirst, hsecond⟩ := ih h
            exact ⟨c :: first, second, rfl, .cons hc hfirst, hsecond⟩
  · rintro ⟨first, second, rfl, hfirst, hsecond⟩
    exact List.rel_append hfirst hsecond

theorem spelled_singleton : Spelled [p] text ↔ ∃ c, text = [c] ∧ p c = true := by
  constructor
  · rintro (_ | ⟨hc, ⟨⟩⟩)
    exact ⟨_, rfl, hc⟩
  · rintro ⟨c, rfl, hc⟩
    exact .cons hc .nil

/-- The letters that a text spells. -/
theorem Spelled.map_baseLetter {spelling : String}
    (hspelling : ∀ c ∈ spelling.toList, c.isLower = true) (h : Spelled (letters spelling) text) :
    text.map baseLetter = spelling.toList := by
  unfold letters Spelled at h
  rw [List.forall₂_map_left_iff] at h
  generalize spelling.toList = chars at hspelling h
  induction h with
  | nil => rfl
  | cons hc _ ih =>
      obtain ⟨hlower, hothers⟩ := List.forall_mem_cons.mp hspelling
      rw [List.map_cons, baseLetter_of_letter hlower hc, ih hothers]

theorem BeginsWithLetter.append {rest : List Char} (h : BeginsWithLetter text) :
    BeginsWithLetter (text ++ rest) := by
  obtain ⟨c, tail, l, rfl, hl, hc⟩ := h
  exact ⟨c, tail ++ rest, l, rfl, hl, hc⟩

theorem EndsWithLetter.append {front : List Char} (h : EndsWithLetter text) :
    EndsWithLetter (front ++ text) := by
  obtain ⟨x, c, l, rfl, hl, hc⟩ := h
  exact ⟨front ++ x, c, l, (List.append_assoc ..).symm, hl, hc⟩

theorem Spelled.beginsWithLetter (h : Spelled (p :: phrase) text) (hp : Lettered p) :
    BeginsWithLetter text := by
  obtain ⟨l, hl, rfl⟩ := hp
  cases h with
  | @cons _ c _ rest hc _ => exact ⟨c, rest, l, rfl, hl, hc⟩

theorem Spelled.endsWithLetter (h : Spelled (phrase ++ [p]) text) (hp : Lettered p) :
    EndsWithLetter text := by
  obtain ⟨l, hl, rfl⟩ := hp
  obtain ⟨front, last, rfl, -, hlast⟩ := spelled_append.mp h
  obtain ⟨c, rfl, hc⟩ := spelled_singleton.mp hlast
  exact ⟨front, c, l, rfl, hl, hc⟩

/-- A word that is spelled. -/
theorem Spelled.word {spelling : String} (h : Spelled (letters spelling) text)
    (hspelling : ∀ c ∈ spelling.toList, c.isLower = true) (hne : spelling.toList ≠ []) :
    BeginsWithLetter text ∧ EndsWithLetter text := by
  have hlettered := lettered_of_mem_letters hspelling
  have hletters : letters spelling ≠ [] := mt List.map_eq_nil_iff.mp hne
  constructor
  · obtain ⟨p, phrase, heq⟩ := List.exists_cons_of_ne_nil hletters
    rw [heq] at h hlettered
    exact h.beginsWithLetter (hlettered p (List.mem_cons_self ..))
  · have heq := (List.dropLast_append_getLast hletters).symm
    rw [heq] at h
    exact h.endsWithLetter (hlettered _ (List.getLast_mem hletters))

end Spelled

-- ============================================================================
-- Percent signs
-- ============================================================================

/-- `\s*(?:%|percent\b)`, before `post`. -/
def PercentSign (word : Char → Bool) (sign post : List Char) : Prop :=
  ∃ gap mark, sign = gap ++ mark ∧ Blanks gap ∧
    (mark = ['%'] ∨ Spelled (letters "percent") mark ∧ ∀ c ∈ post.head?, word c = false)

section PercentSign

variable {word : Char → Bool} {pre sign post : List Char} {captures : List Capture}

theorem isLower_percent : ∀ c ∈ "percent".toList, c.isLower = true := by decide +kernel

/-- After a letter, a boundary is an end of the word. -/
theorem isBoundary_after_letter (hword : WordClass word) {front : List Char} {c d : Char}
    (hc : c.isLower = true) (hd : letter c d = true) :
    isBoundary word (pre ++ (front ++ [d])) post = true ↔ ∀ c ∈ post.head?, word c = false :=
  isBoundary_iff_right (by rw [← List.append_assoc]; exact List.getLast?_concat)
    (hword.letter c d hc hd)

theorem matches_percentSign (hword : WordClass word) :
    (percentSign word).Matches pre sign post captures ↔
      PercentSign word sign post ∧ captures = [] := by
  have hlast {mark : List Char} (h : Spelled (letters "percent") mark) :
      ∃ front d, mark = front ++ [d] ∧ letter 't' d = true := by
    have hsplit : Spelled (letters "percen" ++ [letter 't']) mark := h
    obtain ⟨front, last, rfl, -, hlast⟩ := spelled_append.mp hsplit
    obtain ⟨d, rfl, hd⟩ := spelled_singleton.mp hlast
    exact ⟨front, d, rfl, hd⟩
  constructor
  · rintro ⟨gap, mark, _, _, rfl, rfl, ⟨hgap, rfl⟩,
      ⟨⟨c, rfl, hc⟩, rfl⟩ | ⟨letters, _, _, _, rfl, rfl, hletters, rfl, rfl, hboundary⟩⟩
    · obtain rfl := of_decide_eq_true hc
      exact ⟨⟨gap, ['%'], rfl, hgap, .inl rfl⟩, rfl⟩
    · obtain ⟨hspelled, rfl⟩ := matches_chars.mp hletters
      obtain ⟨front, d, rfl, hd⟩ := hlast hspelled
      have hend := (isBoundary_after_letter hword (by decide) hd).mp hboundary
      rw [List.append_nil]
      exact ⟨⟨gap, _, rfl, hgap, .inr ⟨hspelled, hend⟩⟩, rfl⟩
  · rintro ⟨⟨gap, mark, rfl, hgap, rfl | ⟨hspelled, hboundary⟩⟩, rfl⟩
    · exact ⟨gap, ['%'], [], [], rfl, rfl, ⟨hgap, rfl⟩, .inl ⟨⟨'%', rfl, rfl⟩, rfl⟩⟩
    · refine ⟨gap, mark, [], [], rfl, rfl, ⟨hgap, rfl⟩, .inr ⟨mark, [], [], [],
        (List.append_nil _).symm, rfl, matches_chars.mpr ⟨hspelled, rfl⟩, rfl, rfl, ?_⟩⟩
      obtain ⟨front, d, rfl, hd⟩ := hlast hspelled
      exact (isBoundary_after_letter hword (by decide) hd).mpr hboundary

/-- It begins with what no numeral has, and has no digit. -/
theorem PercentSign.chars (h : PercentSign word sign post) :
    sign ≠ [] ∧ (∀ c ∈ sign.head?, isNumeral c = false) ∧ ∀ c ∈ sign, isDigit c = false := by
  obtain ⟨gap, mark, rfl, hgap, hmark⟩ := h
  have hmarks : mark ≠ [] ∧ (∀ c ∈ mark.head?, isNumeral c = false) ∧
      ∀ c ∈ mark, isDigit c = false := by
    rcases hmark with rfl | ⟨hspelled, -⟩
    · have hdigit : isDigit '%' = false := isDigit_eq_false (by decide)
      have hnumeral : isNumeral '%' = false := by
        unfold isNumeral
        rw [hdigit]
        decide
      exact ⟨List.cons_ne_nil _ _, head_cons hnumeral [],
        List.forall_mem_singleton.mpr hdigit⟩
    · have hletter : ∀ c ∈ mark, isNumeral c = false ∧ isDigit c = false := by
        intro c hc
        obtain ⟨p, hp, hpc⟩ := hspelled.of_mem hc
        obtain ⟨l, hl, rfl⟩ := lettered_of_mem_letters isLower_percent p hp
        exact ⟨isNumeral_of_letter hl hpc, isDigit_of_letter hl hpc⟩
      refine ⟨?_, fun c hc => (hletter c (List.mem_of_mem_head? hc)).1,
        fun c hc => (hletter c hc).2⟩
      rintro rfl
      cases hspelled
  exact ⟨List.append_ne_nil_of_right_ne_nil _ hmarks.1,
    head_append (fun c hc => isNumeral_of_isSpace (hgap c hc)) hmarks.2.1,
    List.forall_mem_append.mpr ⟨fun c hc => isDigit_of_isSpace (hgap c hc), hmarks.2.2⟩⟩

theorem PercentSign.head_isNumeral (h : PercentSign word sign post) (rest : List Char) :
    ∀ c ∈ (sign ++ rest).head?, isNumeral c = false := by
  obtain ⟨hne, hhead, -⟩ := h.chars
  obtain ⟨c, sign, rfl⟩ := List.exists_cons_of_ne_nil hne
  exact hhead

/-- The class only matters for what stands after the sign. -/
theorem PercentSign.mono {word' : Char → Bool} (hle : ∀ c ∈ post, word c = false → word' c = false)
    (h : PercentSign word sign post) : PercentSign word' sign post := by
  obtain ⟨gap, mark, rfl, hgap, hmark⟩ := h
  exact ⟨gap, mark, rfl, hgap, hmark.imp_right fun hpercent =>
    ⟨hpercent.1, fun c hc => hle c (List.mem_of_mem_head? hc) (hpercent.2 c hc)⟩⟩

end PercentSign

-- ============================================================================
-- A percentage and its phrase
-- ============================================================================

/-- A percent sign and the phrase after it: what follows the numeral, before `post`. -/
structure Trailing (word : Char → Bool) (phrase : List (Char → Bool)) (tail post : List Char) :
    Prop where
  tail : ∃ sign gap said, tail = sign ++ (gap ++ said) ∧
    PercentSign word sign (gap ++ (said ++ post)) ∧ gap ≠ [] ∧ Blanks gap ∧ Spelled phrase said
  boundary : ∀ c ∈ post.head?, word c = false

/-- A lead and the blanks after it: what is before the numeral, after `before`. -/
structure Leading (word : Char → Bool) (lead : Pattern) (before said gap : List Char) :
    Prop where
  boundary : ∀ c ∈ before.getLast?, word c = false
  said : lead.Spells said
  gap_ne : gap ≠ []
  gap : Blanks gap

/-- The words of a phrase that stands after a percentage. -/
structure PhraseClasses (phrase : List (Char → Bool)) : Prop where
  classes : ∀ p ∈ phrase, Lettered p ∨ p = dashOrSpace
  last : ∃ front p, phrase = front ++ [p] ∧ Lettered p

/-- The words that a lead can begin with. -/
def openingWords : List String := ["stop", "take", "the", "position", "gain"]

/-- The text begins with the word that opens a lead. -/
def BeginsWithWord (text : List Char) : Prop :=
  ∃ spelling ∈ openingWords, ∃ opening rest, text = opening ++ rest ∧
    Spelled (letters spelling) opening

theorem BeginsWithWord.append {text rest : List Char} (h : BeginsWithWord text) :
    BeginsWithWord (text ++ rest) := by
  obtain ⟨spelling, hspelling, opening, more, rfl, hopening⟩ := h
  exact ⟨spelling, hspelling, opening, more ++ rest, List.append_assoc .., hopening⟩

theorem BeginsWithWord.beginsWithLetter {text : List Char} (h : BeginsWithWord text) :
    BeginsWithLetter text := by
  obtain ⟨spelling, hspelling, opening, more, rfl, hopening⟩ := h
  have hwords : ∀ spelling ∈ openingWords, (∀ c ∈ spelling.toList, c.isLower = true) ∧
      spelling.toList ≠ [] := by decide
  exact (hopening.word (hwords spelling hspelling).1 (hwords spelling hspelling).2).1.append

/-- The words of a lead. -/
structure LeadPattern (lead : Pattern) : Prop where
  plain : lead.Plain
  chars : lead.Consumes fun c => isDigit c = false ∧ c ≠ '.'
  first : ∀ said, lead.Spells said → BeginsWithWord said
  last : ∀ said, lead.Spells said → EndsWithLetter said

section Forms

variable {word : Char → Bool} {phrase : List (Char → Bool)} {lead : Pattern}
  {pre body post tail before said gap : List Char} {captures : List Capture}

theorem matches_percentThen (hword : WordClass word) (hphrase : PhraseClasses phrase) :
    (percentThen word phrase).Matches pre body post captures ↔
      ∃ numeral tail, body = numeral ++ tail ∧ Numeral numeral ∧ Trailing word phrase tail post ∧
        captures = [⟨1, pre.length, numeral⟩] := by
  obtain ⟨front, _, rfl, l, hl, rfl⟩ := hphrase.last
  have hlast {said : List Char} (h : Spelled (front ++ [letter l]) said) :
      ∃ x c, said = x ++ [c] ∧ letter l c = true := by
    obtain ⟨x, last, rfl, -, hlast⟩ := spelled_append.mp h
    obtain ⟨c, rfl, hc⟩ := spelled_singleton.mp hlast
    exact ⟨x, c, rfl, hc⟩
  constructor
  · rintro ⟨_, rest, _, _, rfl, rfl, ⟨numeral, sign, _, _, rfl, rfl, ⟨_, rfl, hnumeral⟩, hsign⟩,
      gap, _, _, _, rfl, rfl, hgap, said, _, _, _, rfl, rfl, hsaid, rfl, rfl, hboundary⟩
    obtain ⟨hform, rfl⟩ := matches_numeral.mp hnumeral
    obtain ⟨hpercent, rfl⟩ := (matches_percentSign hword).mp hsign
    obtain ⟨hne, hblanks, rfl⟩ := matches_several.mp hgap
    obtain ⟨hspelled, rfl⟩ := matches_chars.mp hsaid
    obtain ⟨x, c, rfl, hc⟩ := hlast hspelled
    refine ⟨numeral, sign ++ (gap ++ (x ++ [c])), ?_, hform, ⟨⟨sign, gap, x ++ [c], rfl, ?_, hne,
      hblanks, hspelled⟩, (isBoundary_after_letter hword hl hc).mp hboundary⟩, ?_⟩
    · simp only [List.append_assoc, List.append_nil]
    · simpa only [List.append_assoc, List.nil_append] using hpercent
    · rfl
  · rintro ⟨numeral, _, rfl, hform, ⟨⟨sign, gap, said, rfl, hpercent, hne, hblanks, hspelled⟩,
      hboundary⟩, rfl⟩
    refine ⟨numeral ++ sign, gap ++ (said ++ []), _, [], ?_, rfl, ⟨numeral, sign, _, [], rfl, rfl,
      ⟨[], rfl, matches_numeral.mpr ⟨hform, rfl⟩⟩, (matches_percentSign hword).mpr ⟨?_, rfl⟩⟩,
      gap, said ++ [], [], [], rfl, rfl, matches_several.mpr ⟨hne, hblanks, rfl⟩, said, [], [], [],
      rfl, rfl, matches_chars.mpr ⟨hspelled, rfl⟩, rfl, rfl, ?_⟩
    · simp only [List.append_assoc, List.append_nil]
    · simpa only [List.append_assoc, List.append_nil] using hpercent
    · obtain ⟨x, c, rfl, hc⟩ := hlast hspelled
      exact (isBoundary_after_letter hword hl hc).mpr hboundary

theorem matches_percentAfter (hword : WordClass word) (hlead : LeadPattern lead) :
    (percentAfter word lead).Matches pre body post captures ↔
      ∃ said gap numeral sign, body = said ++ (gap ++ (numeral ++ sign)) ∧
        Leading word lead pre said gap ∧ Numeral numeral ∧ PercentSign word sign post ∧
        captures = [⟨1, (pre ++ (said ++ gap)).length, numeral⟩] := by
  have hfirst {said : List Char} (h : lead.Spells said) (rest : List Char) :
      isBoundary word pre (said ++ rest) = true ↔ ∀ c ∈ pre.getLast?, word c = false := by
    obtain ⟨c, tail, l, rfl, hl, hc⟩ := (hlead.first said h).beginsWithLetter
    exact isBoundary_iff_left (hword.letter l c hl hc)
  constructor
  · rintro ⟨_, _, _, _, rfl, rfl, ⟨rfl, rfl, hboundary⟩, said, _, _, _, rfl, rfl, hsaid, gap, _, _,
      _, rfl, rfl, hgap, numeral, sign, _, _, rfl, rfl, ⟨_, rfl, hnumeral⟩, hsign⟩
    obtain ⟨hspells, rfl⟩ := hlead.plain.matches_iff.mp hsaid
    obtain ⟨hne, hblanks, rfl⟩ := matches_several.mp hgap
    obtain ⟨hform, rfl⟩ := matches_numeral.mp hnumeral
    obtain ⟨hpercent, rfl⟩ := (matches_percentSign hword).mp hsign
    rw [List.append_assoc, hfirst hspells] at hboundary
    refine ⟨said, gap, numeral, sign, rfl, ⟨hboundary, hspells, hne, hblanks⟩, hform, hpercent, ?_⟩
    simp only [List.nil_append, List.append_nil, List.append_assoc]
  · rintro ⟨said, gap, numeral, sign, rfl, hleading, hform, hpercent, rfl⟩
    refine ⟨[], _, [], _, rfl, rfl, ⟨rfl, rfl, ?_⟩, said, _, [], _, rfl, rfl,
      hlead.plain.matches_iff.mpr ⟨hleading.said, rfl⟩, gap, _, [], _, rfl, rfl,
      matches_several.mpr ⟨hleading.gap_ne, hleading.gap, rfl⟩, numeral, sign, _, [], rfl, ?_,
      ⟨[], rfl, matches_numeral.mpr ⟨hform, rfl⟩⟩, (matches_percentSign hword).mpr ⟨hpercent, rfl⟩⟩
    · have hstart := (hfirst hleading.said (gap ++ (numeral ++ sign) ++ post)).mpr hleading.boundary
      rwa [← List.append_assoc] at hstart
    · simp only [List.append_nil, List.append_assoc]

end Forms

section Tails

variable {word : Char → Bool} {phrase : List (Char → Bool)} {tail post : List Char}

theorem PhraseClasses.not_isDigit (h : PhraseClasses phrase) {said : List Char}
    (hsaid : Spelled phrase said) : ∀ c ∈ said, isDigit c = false := by
  intro c hc
  obtain ⟨p, hp, hpc⟩ := hsaid.of_mem hc
  rcases h.classes p hp with ⟨l, hl, rfl⟩ | rfl
  · exact isDigit_of_letter hl hpc
  · rw [dashOrSpace, Bool.or_eq_true, decide_eq_true_eq, decide_eq_true_eq] at hpc
    rcases hpc with rfl | rfl <;> exact isDigit_eq_false (by decide)

theorem Trailing.head_isNumeral (h : Trailing word phrase tail post) (rest : List Char) :
    ∀ c ∈ (tail ++ rest).head?, isNumeral c = false := by
  obtain ⟨sign, gap, said, rfl, hsign, -⟩ := h.tail
  rw [List.append_assoc]
  exact hsign.head_isNumeral _

theorem Trailing.mono {word' : Char → Bool}
    (hle : ∀ c ∈ tail ++ post, word c = false → word' c = false)
    (h : Trailing word phrase tail post) : Trailing word' phrase tail post := by
  obtain ⟨sign, gap, said, rfl, hsign, hne, hgap, hsaid⟩ := h.tail
  refine ⟨⟨sign, gap, said, rfl, hsign.mono fun c hc => hle c ?_, hne, hgap, hsaid⟩,
    fun c hc => hle c (List.mem_append_right _ (List.mem_of_mem_head? hc)) (h.boundary c hc)⟩
  simp only [List.append_assoc]
  exact List.mem_append_right _ hc

theorem Trailing.not_isDigit (h : Trailing word phrase tail post) (hphrase : PhraseClasses phrase) :
    ∀ c ∈ tail, isDigit c = false := by
  obtain ⟨sign, gap, said, rfl, hsign, -, hgap, hsaid⟩ := h.tail
  exact List.forall_mem_append.mpr ⟨hsign.chars.2.2, List.forall_mem_append.mpr
    ⟨fun c hc => isDigit_of_isSpace (hgap c hc), hphrase.not_isDigit hsaid⟩⟩

theorem Trailing.concat (h : Trailing word phrase tail post) (hphrase : PhraseClasses phrase) :
    ∃ front c, tail = front ++ [c] ∧ isNumeral c = false := by
  obtain ⟨sign, gap, said, rfl, -, -, -, hsaid⟩ := h.tail
  obtain ⟨front, _, rfl, l, hl, rfl⟩ := hphrase.last
  obtain ⟨x, last, rfl, -, hlast⟩ := spelled_append.mp hsaid
  obtain ⟨c, rfl, hc⟩ := spelled_singleton.mp hlast
  exact ⟨sign ++ (gap ++ x), c, by simp only [List.append_assoc], isNumeral_of_letter hl hc⟩

theorem Trailing.clear (h : Trailing word phrase tail post) (hphrase : PhraseClasses phrase) :
    Clear tail := by
  obtain ⟨front, c, rfl, hc⟩ := h.concat hphrase
  exact ⟨h.not_isDigit hphrase, last_concat hc front⟩

theorem Leading.mono {word' : Char → Bool} {lead : Pattern} {before said gap : List Char}
    (hle : ∀ c ∈ before, word c = false → word' c = false)
    (h : Leading word lead before said gap) : Leading word' lead before said gap :=
  ⟨fun c hc => hle c (List.mem_of_getLast? hc) (h.boundary c hc), h.said, h.gap_ne, h.gap⟩

/-- What is before the numeral ends in a blank. -/
theorem Leading.last {lead : Pattern} {before said gap : List Char}
    (h : Leading word lead before said gap) (front : List Char) :
    ∀ c ∈ (front ++ gap).getLast?, isSpace c = true := by
  intro c hc
  rw [List.getLast?_append_of_ne_nil _ h.gap_ne] at hc
  exact h.gap c (List.mem_of_getLast? hc)

theorem Leading.clear {lead : Pattern} {before said gap : List Char} (hlead : LeadPattern lead)
    (h : Leading word lead before said gap) : Clear (said ++ gap) :=
  ⟨List.forall_mem_append.mpr ⟨fun c hc => (hlead.chars.forall_mem h.said c hc).1,
    fun c hc => isDigit_of_isSpace (h.gap c hc)⟩,
    fun c hc => isNumeral_of_isSpace (h.last said c hc)⟩

theorem Leading.last_isNumeral {lead : Pattern} {before said gap : List Char}
    (h : Leading word lead before said gap) :
    ∀ c ∈ (before ++ (said ++ gap)).getLast?, isNumeral c = false := by
  intro c hc
  rw [← List.append_assoc] at hc
  exact isNumeral_of_isSpace (h.last _ c hc)

end Tails

end Services
end TradingPlatform
