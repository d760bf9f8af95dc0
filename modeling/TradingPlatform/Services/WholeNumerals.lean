/-
  TradingPlatform.Services.WholeNumerals

  Captured percentages as complete numbers of the text.

  The value of a percentage pattern has no left boundary.  A match that is found
  starts as far to the left as it can (`TrailingFound.leftmost`), so what is
  captured is the rest of a longer number exactly where the longer number is not
  a numeral of the pattern: after a comma, or where a sign or a second point
  stands inside of it (`BreaksNumber`).
-/

import TradingPlatform.Services.RiskPhrases
import TradingPlatform.Services.StrategyPreview

namespace TradingPlatform
namespace Services

open Python Schemas Regex Pattern JoinedText

-- ============================================================================
-- Complete numbers
-- ============================================================================

/-- A numeral after this text would be the rest of a number: it ends in a digit, or in a point or
    a comma that follows a digit. -/
def EndsInNumber (pre : List Char) : Prop :=
  ∃ front c, pre = front ++ [c] ∧
    (isDigit c = true ∨ (∃ d ∈ front.getLast?, isDigit d = true) ∧ (c = ',' ∨ c = '.'))

/-- The numeral does not continue the number before it as a numeral: a comma is between them, or
    the numeral has a sign, or a second point. -/
def BreaksNumber (pre numeral : List Char) : Prop :=
  ∃ front c, pre = front ++ [c] ∧
    (isDigit c = true ∧ HasSign numeral ∨
      (∃ d ∈ front.getLast?, isDigit d = true) ∧
        (c = ',' ∨ c = '.' ∧ (HasSign numeral ∨ '.' ∈ numeral)))

/-- A percentage before the phrase of the control, with a number before its numeral that the
    numeral does not continue. -/
def CutsNumber (word : Char → Bool) (control : Control) (text : List Char) : Prop :=
  ∃ pre numeral tail post, text = pre ++ (numeral ++ (tail ++ post)) ∧ Numeral numeral ∧
    Trailing word control.phrase tail post ∧ BreaksNumber pre numeral

/-- The captured value is a numeral of the text and not the rest of a longer number. -/
structure WholeCapture (text : List Char) (capture : Capture) : Prop where
  numeral : Numeral capture.text
  place : ∃ pre post, text = pre ++ (capture.text ++ post) ∧ capture.start = pre.length ∧
    ¬ EndsInNumber pre

/-- Every captured value is a complete number; what is extracted is the value of one, and a control
    that is mentioned without one is rejected. -/
structure ExtractsWhole (word : Char → Bool) (rendering : Rendering) (text : String) : Prop where
  whole : ∀ control : Control, ∀ capture ∈ control.captured word text.toList,
    WholeCapture text.toList capture
  accepted : ∀ (control : Control) v, control.extract word rendering text = .ok (some v) →
    ∃ capture ∈ control.captured word text.toList, WholeCapture text.toList capture ∧
      percentOf control.label capture = .ok v
  rejected : ∀ control : Control,
    ((control.phrasePattern word).search text.toList).isSome = true →
    (∀ capture ∈ control.captured word text.toList, ¬ WholeCapture text.toList capture) →
    ∃ message, control.extract word rendering text = .error (.strategyValidationError message)

section Whole

variable {word : Char → Bool} {control : Control} {rendering : Rendering} {text pre numeral tail :
  List Char}

theorem BreaksNumber.endsInNumber (h : BreaksNumber pre numeral) : EndsInNumber pre := by
  obtain ⟨front, c, rfl, ⟨hc, -⟩ | ⟨hdigit, hmark⟩⟩ := h
  · exact ⟨front, c, rfl, .inl hc⟩
  · exact ⟨front, c, rfl, .inr ⟨hdigit, hmark.imp_right And.left⟩⟩

/-- A numeral that breaks a number is not continued to the left by a longer numeral. -/
theorem BreaksNumber.not_numeral {before front : List Char}
    (h : BreaksNumber (before ++ front) numeral) (hfront : front ≠ []) :
    ¬ Numeral (front ++ numeral) := by
  intro hnumeral
  obtain ⟨x, c, hpre, hbreaks⟩ := h
  have hc : c ∈ front := by
    have hlast := congrArg List.getLast? hpre
    rw [List.getLast?_append_of_ne_nil _ hfront, List.getLast?_concat] at hlast
    exact List.mem_of_getLast? hlast
  have hsign : ¬ HasSign numeral := hnumeral.not_hasSign_of_append hfront
  rcases hbreaks with ⟨-, hsigned⟩ | ⟨-, rfl | ⟨rfl, hsigned | hpoint⟩⟩
  · exact hsign hsigned
  · have hcomma := hnumeral.isNumeral _ (List.mem_append_left _ hc)
    rw [isNumeral, isDigit_eq_false (by decide)] at hcomma
    exact absurd hcomma (by decide)
  · exact hsign hsigned
  · exact hnumeral.point_notMem_of_append hc hpoint

/-- A match that is found captures the rest of a number only where it breaks one. -/
theorem TrailingFound.breaksNumber (hword : WordClass word) {m : Found}
    (h : TrailingFound word control text m numeral tail) (hends : EndsInNumber m.pre) :
    BreaksNumber m.pre numeral := by
  obtain ⟨front, c, hpre, hc⟩ := hends
  have hleftmost : ¬ Numeral (c :: numeral) := h.leftmost hword hpre (List.cons_ne_nil _ _)
  refine ⟨front, c, hpre, ?_⟩
  rcases hc with hdigit | ⟨hdigit, rfl | rfl⟩
  · refine .inl ⟨hdigit, ?_⟩
    by_contra hsign
    exact hleftmost (h.numeralForm.cons_digit hdigit (not_hasSign hsign))
  · exact .inr ⟨hdigit, .inl rfl⟩
  · refine .inr ⟨hdigit, .inr ⟨rfl, ?_⟩⟩
    by_contra hwhole
    obtain ⟨hsign, hpoint⟩ := not_or.mp hwhole
    exact hleftmost (h.numeralForm.cons_point (not_hasSign hsign) hpoint)

/-- A number does not end in a blank. -/
theorem Leading.not_endsInNumber {lead : Pattern} {before said gap : List Char}
    (h : Leading word lead before said gap) : ¬ EndsInNumber (before ++ (said ++ gap)) := by
  rintro ⟨front, c, heq, hc⟩
  have hspace : isSpace c = true := by
    refine h.last (before ++ said) c ?_
    rw [List.append_assoc, heq]
    exact List.getLast?_concat
  rcases hc with hdigit | ⟨-, rfl | rfl⟩
  · rw [isDigit_of_isSpace hspace] at hdigit
    cases hdigit
  · exact absurd hspace (by decide)
  · exact absurd hspace (by decide)

/-- The captures of a control are whole if and only if no percentage cuts a number. -/
theorem captured_whole_iff (hword : WordClass word) :
    (∀ capture ∈ control.captured word text, WholeCapture text capture) ↔
      ¬ CutsNumber word control text := by
  constructor
  · rintro hwhole ⟨pre, numeral, tail, post, htext, hnumeral, htail, hbreaks⟩
    obtain ⟨m, front, foundTail, h, rfl⟩ :=
      exists_trailingFound_of_trailing hword htext hnumeral htail
    have hfront : front = [] := by
      by_contra hne
      exact hbreaks.not_numeral hne h.numeralForm
    subst hfront
    obtain ⟨other, post', hplace, hstart, hnot⟩ :=
      (hwhole _ ((mem_captured hword).mpr (.inl ⟨m, _, _, h, rfl⟩))).place
    obtain ⟨hsame, -⟩ := List.append_inj (h.text_eq.symm.trans hplace) hstart
    refine hnot ?_
    rw [← hsame, ← List.append_nil m.pre]
    exact hbreaks.endsInNumber
  · intro hcuts capture hcapture
    rcases (mem_captured hword).mp hcapture with
      ⟨m, numeral, tail, h, rfl⟩ | ⟨lead, -, m, said, gap, numeral, sign, h, rfl⟩
    · refine ⟨h.numeralForm, m.pre, tail ++ m.post, h.text_eq, rfl, fun hends => hcuts ?_⟩
      exact ⟨m.pre, numeral, tail, m.post, h.text_eq, h.numeralForm, h.tailForm,
        h.breaksNumber hword hends⟩
    · exact ⟨h.numeralForm, _, sign ++ m.post, h.text_eq, rfl, h.leading.not_endsInNumber⟩

end Whole

/-- The percentages are extracted as complete numbers if and only if none is written after a
    number that it does not continue. -/
theorem extractsWhole_iff {word : Char → Bool} (hword : WordClass word) (rendering : Rendering)
    (text : String) :
    ExtractsWhole word rendering text ↔
      ∀ control : Control, ¬ CutsNumber word control text.toList := by
  constructor
  · exact fun h control => (captured_whole_iff hword).mp (h.whole control)
  · intro hcuts
    have hwhole (control : Control) := (captured_whole_iff hword).mpr (hcuts control)
    refine ⟨hwhole, fun control v h => ?_, fun control hmentioned hnone => ?_⟩
    · obtain ⟨capture, hcapture, hvalue⟩ := control.extract_eq_some h
      exact ⟨capture, hcapture, hwhole control capture hcapture, hvalue⟩
    · refine (control.extract_of_mentioned hmentioned).resolve_left ?_
      rintro ⟨v, hv⟩
      obtain ⟨capture, hcapture, -⟩ := control.extract_eq_some hv
      exact hnone capture hcapture (hwhole control capture hcapture)

/-- A decimal comma: the stop-loss of one and a half percent is taken for one of five. -/
theorem extractsWhole_decimalComma :
    extractRiskControlsFrom plainWord plainRendering "Use a 1,5% stop loss." =
      .ok ⟨some 5, none⟩ ∧
    ¬ ExtractsWhole plainWord plainRendering "Use a 1,5% stop loss." := by
  refine ⟨by decide +kernel, fun h => ?_⟩
  have hcapture : (⟨1, 8, ['5']⟩ : Capture) ∈
      Control.stopLoss.captured plainWord "Use a 1,5% stop loss.".toList := by decide +kernel
  obtain ⟨pre, post, htext, hstart, hnot⟩ := (h.whole .stopLoss _ hcapture).place
  have hsplit : "Use a 1,".toList ++ "5% stop loss.".toList = pre ++ (['5'] ++ post) := htext
  obtain ⟨rfl, -⟩ := List.append_inj hsplit hstart
  exact hnot ⟨"Use a 1".toList, ',', rfl, .inr ⟨⟨'1', rfl, by decide⟩, .inl rfl⟩⟩

/-- With a decimal point the whole number is extracted. -/
theorem extractsWhole_iff_decimalPoint :
    ExtractsWhole plainWord plainRendering "Use a 1.5% stop loss." := by
  refine (extractsWhole_iff plainWord_wordClass plainRendering "Use a 1.5% stop loss.").mpr ?_
  intro control
  refine (captured_whole_iff plainWord_wordClass).mp fun capture hcapture => ?_
  have hstop : Control.stopLoss.captured plainWord "Use a 1.5% stop loss.".toList =
      [⟨1, 6, "1.5".toList⟩] := by decide +kernel
  have htake : Control.takeProfit.captured plainWord "Use a 1.5% stop loss.".toList = [] := by
    decide +kernel
  cases control with
  | stopLoss =>
      rw [hstop] at hcapture
      obtain rfl := List.mem_singleton.mp hcapture
      have hnumeral : Magnitude ("1".toList ++ '.' :: "5".toList) :=
        .decimal ⟨by decide, by decide +kernel⟩ ⟨by decide, by decide +kernel⟩
      refine ⟨.unsigned hnumeral, "Use a ".toList, "% stop loss.".toList, rfl, rfl, ?_⟩
      rintro ⟨front, c, hend, hc⟩
      obtain rfl : ' ' = c := by simpa using congrArg List.getLast? hend
      rcases hc with hdigit | ⟨-, hmark⟩
      · exact absurd hdigit (by decide)
      · exact absurd hmark (by decide)
  | takeProfit =>
      rw [htake] at hcapture
      cases hcapture

end Services
end TradingPlatform
