/-
  TradingPlatform.Core.Text

  Operations on strings that the languages of the repository share.
-/

import Mathlib.Data.List.TakeWhile

namespace TradingPlatform

/-- The text without the leading and trailing characters of a class. -/
def stripWhere (p : Char → Bool) (text : String) : String :=
  .ofList ((text.toList.dropWhile p).reverse.dropWhile p).reverse

/-- A character outside the class is kept. -/
theorem stripWhere_ne_empty {p : Char → Bool} {text : String} {c : Char} (hc : c ∈ text.toList)
    (hp : p c = false) : stripWhere p text ≠ "" := by
  have hkept : c ∈ text.toList.dropWhile p := by
    rw [← List.takeWhile_append_dropWhile (p := p) (l := text.toList), List.mem_append] at hc
    rcases hc with htaken | hdropped
    · rw [List.mem_takeWhile_imp htaken] at hp
      cases hp
    · exact hdropped
  intro hempty
  rw [stripWhere, String.ofList_eq_empty_iff, List.reverse_eq_nil_iff,
    List.dropWhile_eq_nil_iff] at hempty
  rw [hempty c (List.mem_reverse.mpr hkept)] at hp
  cases hp

end TradingPlatform
