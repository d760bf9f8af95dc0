/-
  TradingPlatform.Services.RiskAttribution

  Which control a percentage of the text belongs to.

  Two percentages with the same end that belong to different controls are one
  percentage between a lead of the one and the phrase of the other
  (`Phrased.inBetween`), and such a percentage is captured by both
  (`InBetween.captured`).  Apart from that, the captures of a control are the
  percentages that are written for it in the sense of the patterns: an underscore
  is a letter, and a sign or a point directly before a number is part of it, where
  only a plus sign does not change its value (`Detached`).  A text that separates
  two clauses by another of these states something else (`KeepsStated`).
-/

import Mathlib.Data.List.Chain
import TradingPlatform.Services.RiskPhrases
import TradingPlatform.Services.StrategyPreview

namespace TradingPlatform
namespace Services

open Python Schemas Regex Pattern JoinedText

-- ============================================================================
-- Written percentages
-- ============================================================================

/-- A percentage of the control is written, its numeral after `pre`: before the phrase of the
    control, or after one of its leads. -/
inductive Phrased (word : Char → Bool) (control : Control) (text pre numeral : List Char) :
    Prop where
  | trailing {tail post : List Char} (htext : text = pre ++ (numeral ++ (tail ++ post)))
      (hnumeral : Numeral numeral) (htail : Trailing word control.phrase tail post)
  | leading {lead : Pattern} {before said gap sign post : List Char}
      (hlead : lead ∈ control.leads) (hpre : pre = before ++ (said ++ gap))
      (htext : text = pre ++ (numeral ++ (sign ++ post))) (hnumeral : Numeral numeral)
      (hleading : Leading word lead before said gap) (hsign : PercentSign word sign post)

/-- The text up to the end of a percentage of the control, its phrase or lead included. -/
inductive Clause (word : Char → Bool) (control : Control) (text : List Char) :
    List Char → Prop where
  | trailing {pre numeral tail post : List Char} (htext : text = (pre ++ (numeral ++ tail)) ++ post)
      (hnumeral : Numeral numeral) (htail : Trailing word control.phrase tail post) :
      Clause word control text (pre ++ (numeral ++ tail))
  | leading {lead : Pattern} {before said gap numeral sign post : List Char}
      (hlead : lead ∈ control.leads)
      (htext : text = ((before ++ (said ++ gap)) ++ (numeral ++ sign)) ++ post)
      (hnumeral : Numeral numeral) (hleading : Leading word lead before said gap)
      (hsign : PercentSign word sign post) :
      Clause word control text ((before ++ (said ++ gap)) ++ (numeral ++ sign))

/-- A percentage with blanks around it between a lead of one control and the phrase of the
    other. -/
def InBetween (word : Char → Bool) (text : List Char) : Prop :=
  ∃ (control : Control) (lead : Pattern) (before said gap numeral tail post : List Char),
    lead ∈ control.leads ∧ text = (before ++ (said ++ gap)) ++ (numeral ++ (tail ++ post)) ∧
    Leading word lead before said gap ∧ Numeral numeral ∧
    Trailing word control.other.phrase tail post

/-- The character before the numeral leaves its value as it is: a digit or a minus sign stands
    only before a signed numeral, and a point before none that is a whole number. -/
def Detached (pre numeral : List Char) : Prop :=
  ∀ c ∈ pre.getLast?, (isDigit c = true ∨ c = '-' → HasSign numeral) ∧
    (c = '.' → HasSign numeral ∨ '.' ∈ numeral)

-- ============================================================================
-- Phrases and leads of different controls
-- ============================================================================

section Clash

variable {word : Char → Bool} {text pre pre' numeral numeral' : List Char}

theorem head_of_beginsWithLetter {said : List Char} (h : BeginsWithLetter said)
    (rest : List Char) : ∀ c ∈ (said ++ rest).head?, isSpace c = false := by
  obtain ⟨c, tail, l, rfl, hl, hc⟩ := h
  exact head_cons (isSpace_of_letter hl hc) (tail ++ rest)

theorem last_of_endsWithLetter {said : List Char} (h : EndsWithLetter said)
    (before : List Char) : ∀ c ∈ (before ++ said).getLast?, isSpace c = false := by
  obtain ⟨front, c, l, rfl, hl, hc⟩ := h
  rw [← List.append_assoc]
  exact last_concat (isSpace_of_letter hl hc) (before ++ front)

/-- What a percent sign ends with: the mark, after the blanks. -/
theorem percentMark_inj {mark mark' post post' : List Char}
    (h : mark = ['%'] ∨ Spelled (letters "percent") mark)
    (h' : mark' = ['%'] ∨ Spelled (letters "percent") mark')
    (heq : mark ++ post = mark' ++ post') : mark = mark' ∧ post = post' := by
  have hpercent {mark : List Char} (hspelled : Spelled (letters "percent") mark) (rest rest' :
      List Char) : mark ++ rest ≠ '%' :: rest' := by
    obtain ⟨c, tail, l, rfl, hl, hc⟩ := (hspelled.word isLower_percent (by decide)).1
    intro heq
    obtain rfl : c = '%' := (List.cons.inj heq).1
    exact absurd (toNat_of_letter hl hc) (by decide)
  rcases h with rfl | h
  · rcases h' with rfl | h'
    · exact ⟨rfl, List.append_cancel_left heq⟩
    · exact absurd heq.symm (hpercent h' _ _)
  · rcases h' with rfl | h'
    · exact absurd heq (hpercent h _ _)
    · exact List.append_inj heq (h.length_eq.symm.trans h'.length_eq)

/-- One tail has one phrase. -/
theorem Trailing.clash {tail tail' post post' : List Char}
    (h : Trailing word Control.stopLoss.phrase tail post)
    (h' : Trailing word Control.takeProfit.phrase tail' post') : tail ++ post ≠ tail' ++ post' := by
  intro heq
  obtain ⟨sign, gap, said, rfl, ⟨blanks, mark, rfl, hblanks, hmark⟩, -, hgap, hsaid⟩ := h.tail
  obtain ⟨sign', gap', said', rfl, ⟨blanks', mark', rfl, hblanks', hmark'⟩, -, hgap', hsaid'⟩ :=
    h'.tail
  have hmarkHead {mark : List Char} (hmark : mark = ['%'] ∨ Spelled (letters "percent") mark)
      (rest : List Char) : ∀ c ∈ (mark ++ rest).head?, isSpace c = false := by
    rcases hmark with rfl | hspelled
    · exact head_cons (by decide) _
    · exact head_of_beginsWithLetter (hspelled.word isLower_percent (by decide)).1 rest
  have hspelled := hmark.imp_right And.left
  have hspelled' := hmark'.imp_right And.left
  simp only [List.append_assoc] at heq
  obtain ⟨-, hmarks⟩ := append_class_inj hblanks hblanks' (hmarkHead hspelled _)
    (hmarkHead hspelled' _) heq
  obtain ⟨-, hgaps⟩ := percentMark_inj hspelled hspelled' hmarks
  have hstop : BeginsWithLetter said := hsaid.beginsWithLetter ⟨'s', by decide, rfl⟩
  have htake : BeginsWithLetter said' := hsaid'.beginsWithLetter ⟨'t', by decide, rfl⟩
  obtain ⟨-, hsaids⟩ := append_class_inj hgap hgap' (head_of_beginsWithLetter hstop _)
    (head_of_beginsWithLetter htake _) hgaps
  cases hsaid with
  | cons hs _ =>
      cases hsaid' with
      | cons ht _ =>
          obtain ⟨rfl, -⟩ := List.cons.inj hsaids
          exact absurd (letter_unique (by decide) (by decide) hs ht) (by decide)

theorem Spelled.suffix_or_suffix {spelling spelling' : String} {last last' front front' :
    List Char} (hspelling : ∀ c ∈ spelling.toList, c.isLower = true)
    (hspelling' : ∀ c ∈ spelling'.toList, c.isLower = true)
    (h : Spelled (letters spelling) last) (h' : Spelled (letters spelling') last')
    (heq : front ++ last = front' ++ last') :
    spelling.toList <:+ spelling'.toList ∨ spelling'.toList <:+ spelling.toList := by
  rw [← h.map_baseLetter hspelling, ← h'.map_baseLetter hspelling']
  exact (List.suffix_or_suffix_of_suffix ⟨front, heq⟩ ⟨front', rfl⟩).imp
    (fun h => h.map baseLetter) (fun h => h.map baseLetter)

/-- The last word of a phrase. -/
def Control.noun : Control → String
  | .stopLoss => "loss"
  | .takeProfit => "profit"

/-- The words that a lead can end with, apart from "of" and "at" after the noun. -/
def Control.lastWords : Control → List String
  | .stopLoss => ["loss", "lose", "loses", "losing"]
  | .takeProfit => ["profit", "gain", "gains", "gaining"]

/-- How a lead of the control ends: with one of its last words, or with "of" or "at" after the noun.
    -/
inductive LeadEnding (control : Control) (said : List Char) : Prop where
  | word (spelling : String) (front : List Char) {last : List Char}
      (hspelling : spelling ∈ control.lastWords) (hsaid : said = front ++ last)
      (hlast : Spelled (letters spelling) last)
  | ofOrAt (spelling : String) {front noun gap of : List Char}
      (hspelling : spelling ∈ ["of", "at"]) (hsaid : said = ((front ++ noun) ++ gap) ++ of)
      (hnoun : Spelled (letters control.noun) noun) (hgap : Blanks gap)
      (hof : Spelled (letters spelling) of)

theorem leadEnding_ofOrAt (control : Control) {said : List Char}
    (h : (Services.ofOrAt control.phrase).Spells said) : LeadEnding control said := by
  obtain ⟨noun, rest, rfl, hnoun, hrest⟩ := spells_ofOrAt.mp h
  obtain ⟨front, last, rfl, hlast⟩ : ∃ front last, noun = front ++ last ∧
      Spelled (letters control.noun) last := by
    cases control with
    | stopLoss =>
        have hsplit : Spelled ((letters "stop" ++ [dashOrSpace]) ++ letters "loss") noun := hnoun
        obtain ⟨front, last, rfl, -, hlast⟩ := spelled_append.mp hsplit
        exact ⟨front, last, rfl, hlast⟩
    | takeProfit =>
        have hsplit : Spelled ((letters "take" ++ [dashOrSpace]) ++ letters "profit") noun := hnoun
        obtain ⟨front, last, rfl, -, hlast⟩ := spelled_append.mp hsplit
        exact ⟨front, last, rfl, hlast⟩
  rcases hrest with rfl | ⟨gap, of, rfl, ⟨-, hgap⟩, hof⟩
  · have hword : control.noun ∈ control.lastWords := by cases control <;> decide
    exact .word control.noun front hword (List.append_nil _) hlast
  · rcases hof with hof | hof
    · exact .ofOrAt "of" (by decide) (List.append_assoc ..).symm hlast hgap hof
    · exact .ofOrAt "at" (by decide) (List.append_assoc ..).symm hlast hgap hof

/-- A word that is a stem and an ending. -/
theorem LeadEnding.of_stem {control : Control} {stem ending : String} {said first last : List Char}
    (front : List Char) (hword : stem ++ ending ∈ control.lastWords)
    (hsaid : said = front ++ (first ++ last)) (hfirst : Spelled (letters stem) first)
    (hlast : Spelled (letters ending) last) : LeadEnding control said := by
  have hletters : letters (stem ++ ending) = letters stem ++ letters ending := by
    rw [letters, String.toList_append, List.map_append, letters, letters]
  refine .word (stem ++ ending) front hword hsaid ?_
  rw [hletters]
  exact spelled_append.mpr ⟨first, last, rfl, hfirst, hlast⟩

theorem leadEnding_gains {said : List Char} (h : gains.Spells said) :
    LeadEnding .takeProfit said := by
  obtain ⟨gain, ending, rfl, hgain, rfl | hending | hending⟩ := spells_gains.mp h
  · exact .word "gain" [] (by decide) (List.append_nil _) hgain
  · exact .of_stem [] (by decide) rfl hgain hending
  · exact .of_stem [] (by decide) rfl hgain hending

theorem leadEnding_positionLoses {the said : List Char} (h : positionLoses.Spells said) :
    LeadEnding .stopLoss (the ++ said) := by
  obtain ⟨position, gap, los, ending, rfl, -, -, hlos, hending⟩ := spells_positionLoses.mp h
  have hsaid : the ++ (position ++ (gap ++ (los ++ ending))) =
      (the ++ (position ++ gap)) ++ (los ++ ending) := by simp only [List.append_assoc]
  rcases hending with hending | hending | hending
  · exact .of_stem _ (by decide) hsaid hlos hending
  · exact .of_stem _ (by decide) hsaid hlos hending
  · exact .of_stem _ (by decide) hsaid hlos hending

theorem Control.leadEnding (control : Control) {lead : Pattern} (hlead : lead ∈ control.leads)
    {said : List Char} (h : lead.Spells said) : LeadEnding control said := by
  have hthe := plain_optional (plain_seq (plain_chars (letters "the")) (plain_several isSpace))
  cases control with
  | stopLoss =>
      rcases List.mem_cons.mp hlead with rfl | hlead
      · exact leadEnding_ofOrAt .stopLoss h
      · obtain rfl := List.mem_singleton.mp hlead
        obtain ⟨the, position, rfl, -, hposition⟩ :=
          (spells_seq hthe plain_positionLoses).mp h
        exact leadEnding_positionLoses hposition
  | takeProfit =>
      rcases List.mem_cons.mp hlead with rfl | hlead
      · exact leadEnding_ofOrAt .takeProfit h
      · obtain rfl := List.mem_singleton.mp hlead
        exact leadEnding_gains h

theorem isLower_endings : (∀ control : Control, (∀ c ∈ control.noun.toList, c.isLower = true) ∧
      ∀ spelling ∈ control.lastWords, ∀ c ∈ spelling.toList, c.isLower = true) ∧
    ∀ spelling ∈ ["of", "at"], ∀ c ∈ spelling.toList, c.isLower = true := by
  refine ⟨fun control => ?_, by decide⟩
  cases control <;> exact ⟨by decide, by decide⟩

/-- The nouns that stand before the same "of" or "at". -/
theorem nouns_clash {before before' noun noun' gap gap' of of' : List Char}
    {spelling spelling' : String} (hspelling : spelling ∈ ["of", "at"])
    (hspelling' : spelling' ∈ ["of", "at"])
    (hnoun : Spelled (letters Control.stopLoss.noun) noun)
    (hnoun' : Spelled (letters Control.takeProfit.noun) noun') (hgap : Blanks gap)
    (hgap' : Blanks gap') (hof : Spelled (letters spelling) of)
    (hof' : Spelled (letters spelling') of') :
    ((before ++ noun) ++ gap) ++ of ≠ ((before' ++ noun') ++ gap') ++ of' := by
  obtain ⟨hcontrols, -⟩ := isLower_endings
  have htwo {spelling : String} {of : List Char} (hspelling : spelling ∈ ["of", "at"])
      (hof : Spelled (letters spelling) of) : of.length = 2 := by
    have hlengths : ∀ spelling ∈ ["of", "at"], (letters spelling).length = 2 := by decide
    exact hof.length_eq.symm.trans (hlengths spelling hspelling)
  have hend {control : Control} {noun : List Char}
      (hnoun : Spelled (letters control.noun) noun) : EndsWithLetter noun :=
    (hnoun.word (hcontrols control).1 (by cases control <;> decide)).2
  intro heq
  obtain ⟨hgaps, -⟩ :=
    List.append_inj' heq ((htwo hspelling hof).trans (htwo hspelling' hof').symm)
  obtain ⟨hnouns, -⟩ := append_class_inj_right hgap hgap'
    (last_of_endsWithLetter (hend hnoun) _) (last_of_endsWithLetter (hend hnoun') _) hgaps
  exact absurd (hnoun.suffix_or_suffix (hcontrols .stopLoss).1 (hcontrols .takeProfit).1
    hnoun' hnouns) (by decide)

/-- One text ends with the leads of one control. -/
theorem LeadEnding.clash {said said' before before' : List Char}
    (h : LeadEnding .stopLoss said) (h' : LeadEnding .takeProfit said') :
    before ++ said ≠ before' ++ said' := by
  obtain ⟨hcontrols, hofs⟩ := isLower_endings
  have hwords : (∀ spelling ∈ Control.stopLoss.lastWords,
        (∀ other ∈ Control.takeProfit.lastWords ++ ["of", "at"],
          ¬ (spelling.toList <:+ other.toList ∨ other.toList <:+ spelling.toList))) ∧
      ∀ spelling ∈ Control.takeProfit.lastWords, ∀ other ∈ ["of", "at"],
          ¬ (other.toList <:+ spelling.toList ∨ spelling.toList <:+ other.toList) := by decide
  intro heq
  cases h with
  | @word spelling front last hspelling hsaid hlast =>
      have hlower := (hcontrols .stopLoss).2 spelling hspelling
      have hleft : (before ++ front) ++ last = before ++ said := by rw [hsaid, List.append_assoc]
      cases h' with
      | @word spelling' front' last' hspelling' hsaid' hlast' =>
          have hright : before' ++ said' = (before' ++ front') ++ last' := by
            rw [hsaid', List.append_assoc]
          exact hwords.1 spelling hspelling spelling' (List.mem_append_left _ hspelling')
            (hlast.suffix_or_suffix hlower ((hcontrols .takeProfit).2 spelling' hspelling') hlast'
              (hleft.trans (heq.trans hright)))
      | @ofOrAt spelling' front' noun' gap' of' hspelling' hsaid' hnoun' hgap' hof' =>
          have hright : before' ++ said' = (before' ++ ((front' ++ noun') ++ gap')) ++ of' := by
            rw [hsaid', List.append_assoc before']
          exact hwords.1 spelling hspelling spelling' (List.mem_append_right _ hspelling')
            (hlast.suffix_or_suffix hlower (hofs spelling' hspelling') hof'
              (hleft.trans (heq.trans hright)))
  | @ofOrAt spelling front noun gap of hspelling hsaid hnoun hgap hof =>
      cases h' with
      | @word spelling' front' last' hspelling' hsaid' hlast' =>
          have hleft : (before ++ ((front ++ noun) ++ gap)) ++ of = before ++ said := by
            rw [hsaid, List.append_assoc before]
          have hright : before' ++ said' = (before' ++ front') ++ last' := by
            rw [hsaid', List.append_assoc]
          exact hwords.2 spelling' hspelling' spelling hspelling
            (hof.suffix_or_suffix (hofs spelling hspelling)
              ((hcontrols .takeProfit).2 spelling' hspelling') hlast'
              (hleft.trans (heq.trans hright)))
      | @ofOrAt spelling' front' noun' gap' of' hspelling' hsaid' hnoun' hgap' hof' =>
          have hnouns : (((before ++ front) ++ noun) ++ gap) ++ of =
              (((before' ++ front') ++ noun') ++ gap') ++ of' := by
            simpa only [hsaid, hsaid', List.append_assoc] using heq
          exact nouns_clash hspelling hspelling' hnoun hnoun' hgap hgap' hof hof' hnouns

/-- One numeral has leads of one control before it. -/
theorem Leading.clash {lead lead' : Pattern} {before said gap before' said' gap' : List Char}
    (hlead : lead ∈ Control.stopLoss.leads) (hlead' : lead' ∈ Control.takeProfit.leads)
    (h : Leading word lead before said gap) (h' : Leading word lead' before' said' gap')
    (hnumeral : Numeral numeral) (hnumeral' : Numeral numeral') :
    (before ++ (said ++ gap)) ++ numeral ≠ (before' ++ (said' ++ gap')) ++ numeral' := by
  have hlast {control : Control} {lead : Pattern} (hlead : lead ∈ control.leads)
      {said : List Char} (hsaid : lead.Spells said) (before : List Char) :=
    last_of_endsWithLetter ((control.leadPattern lead hlead).last said hsaid) before
  intro heq
  obtain ⟨hsame, -⟩ := append_class_inj_right hnumeral.isNumeral hnumeral'.isNumeral
    h.last_isNumeral h'.last_isNumeral heq
  rw [← List.append_assoc, ← List.append_assoc] at hsame
  obtain ⟨hsaids, -⟩ := append_class_inj_right h.gap h'.gap (hlast hlead h.said before)
    (hlast hlead' h'.said before') hsame
  exact (Control.leadEnding .stopLoss hlead h.said).clash
    (Control.leadEnding .takeProfit hlead' h'.said) hsaids

/-- Percentages of different controls with one end are in between. -/
theorem Phrased.inBetween (h : Phrased word .stopLoss text pre numeral)
    (h' : Phrased word .takeProfit text pre' numeral') (hend : pre ++ numeral = pre' ++ numeral') :
    InBetween word text := by
  cases h with
  | @trailing tail post htext hnumeral htail =>
      rw [← List.append_assoc] at htext
      cases h' with
      | @trailing tail' post' htext' hnumeral' htail' =>
          rw [← List.append_assoc, ← hend, htext] at htext'
          exact absurd (List.append_cancel_left htext') (htail.clash htail')
      | @leading lead before said gap sign post' hlead hpre htext' hnumeral' hleading hsign =>
          rw [hend, hpre, List.append_assoc] at htext
          exact ⟨.takeProfit, lead, before, said, gap, numeral', tail, post, hlead, htext,
            hleading, hnumeral', htail⟩
  | @leading lead before said gap sign post hlead hpre htext hnumeral hleading hsign =>
      cases h' with
      | @trailing tail post' htext' hnumeral' htail =>
          rw [← List.append_assoc, ← hend, hpre, List.append_assoc] at htext'
          exact ⟨.stopLoss, lead, before, said, gap, numeral, tail, post', hlead, htext',
            hleading, hnumeral, htail⟩
      | @leading lead' before' said' gap' sign' post' hlead' hpre' htext' hnumeral' hleading'
          hsign' =>
          rw [hpre, hpre'] at hend
          exact absurd hend (hleading.clash hlead hlead' hleading' hnumeral hnumeral')

end Clash

-- ============================================================================
-- Captures of written percentages
-- ============================================================================

section Captured

variable {word : Char → Bool} {control : Control} {text pre numeral : List Char}

theorem Phrased.numeralForm (h : Phrased word control text pre numeral) : Numeral numeral := by
  cases h with
  | trailing _ hnumeral => exact hnumeral
  | leading _ _ _ hnumeral => exact hnumeral

theorem Phrased.mono {word' : Char → Bool} (hle : ∀ c ∈ text, word c = false → word' c = false)
    (h : Phrased word control text pre numeral) : Phrased word' control text pre numeral := by
  cases h with
  | trailing htext hnumeral htail =>
      refine .trailing htext hnumeral (htail.mono fun c hc => hle c ?_)
      rw [htext]
      exact List.mem_append_right _ (List.mem_append_right _ hc)
  | leading hlead hpre htext hnumeral hleading hsign =>
      refine .leading hlead hpre htext hnumeral (hleading.mono fun c hc => hle c ?_)
        (hsign.mono fun c hc => hle c ?_)
      · rw [htext, hpre]
        exact List.mem_append_left _ (List.mem_append_left _ hc)
      · rw [htext]
        exact List.mem_append_right _ (List.mem_append_right _ (List.mem_append_right _ hc))

/-- Without a percentage in between, no two percentages of different controls have one end. -/
theorem Phrased.apart {pre' numeral' : List Char} (h : Phrased word control text pre numeral)
    (h' : Phrased word control.other text pre' numeral') (hbetween : ¬ InBetween word text) :
    pre ++ numeral ≠ pre' ++ numeral' := by
  intro hend
  cases control with
  | stopLoss => exact hbetween (h.inBetween h' hend)
  | takeProfit => exact hbetween (h'.inBetween h hend.symm)

theorem Phrased.split (h : Phrased word control text pre numeral) :
    ∃ rest, text = pre ++ (numeral ++ rest) ∧ Numeral numeral ∧
      ∀ c ∈ rest.head?, isNumeral c = false := by
  cases h with
  | trailing htext hnumeral htail => exact ⟨_, htext, hnumeral, htail.head_isNumeral _⟩
  | leading _ _ htext hnumeral _ hsign => exact ⟨_, htext, hnumeral, hsign.head_isNumeral _⟩

/-- A percentage in between is captured by the patterns of both controls. -/
theorem InBetween.captured (hword : WordClass word) (h : InBetween word text) :
    ∃ capture, capture ∈ Control.stopLoss.captured word text ∧
      capture ∈ Control.takeProfit.captured word text := by
  obtain ⟨control, lead, before, said, gap, numeral, tail, post, hlead, htext, hleading, hnumeral,
    htail⟩ := h
  have hcapturedLead : (⟨1, (before ++ (said ++ gap)).length, numeral⟩ : Capture) ∈
      control.captured word text := by
    obtain ⟨sign, gap', said', rfl, hsign, -⟩ := htail.tail
    simp only [List.append_assoc] at htext
    have hsplit : text = (before ++ (said ++ gap)) ++
        (numeral ++ (sign ++ (gap' ++ (said' ++ post)))) := by
      simp only [htext, List.append_assoc]
    obtain ⟨m, _, _, _, hfound, hplace⟩ := exists_leadingFound_of_leading hword
      (control.leadPattern lead hlead) hsplit hleading hnumeral hsign
    exact (mem_captured hword).mpr (.inr ⟨lead, hlead, m, _, _, _, _, hfound, by rw [hplace]⟩)
  have hcapturedPhrase : (⟨1, (before ++ (said ++ gap)).length, numeral⟩ : Capture) ∈
      control.other.captured word text := by
    obtain ⟨m, front, _, hfound, hpre⟩ :=
      exists_trailingFound_of_trailing hword htext hnumeral htail
    have hlast := hleading.last_isNumeral
    rw [hpre] at hlast
    obtain rfl := hfound.numeralForm.front_eq_nil hlast
    rw [List.append_nil] at hpre
    exact (mem_captured hword).mpr (.inl ⟨m, _, _, hfound, by rw [hpre]; rfl⟩)
  cases control with
  | stopLoss => exact ⟨_, hcapturedLead, hcapturedPhrase⟩
  | takeProfit => exact ⟨_, hcapturedPhrase, hcapturedLead⟩

/-- Only a plus sign continues a detached numeral to the left. -/
theorem Detached.front_eq {before front : List Char} (h : Detached (before ++ front) numeral)
    (hnumeral : Numeral (front ++ numeral)) (hfront : front ≠ []) : front = ['+'] := by
  have hsign : ¬ HasSign numeral := hnumeral.not_hasSign_of_append hfront
  obtain ⟨first, c, rfl⟩ := (List.eq_nil_or_concat' front).resolve_left hfront
  obtain ⟨hbefore, hpoint⟩ := h c (by rw [← List.append_assoc, List.getLast?_concat]; rfl)
  have hc : c ∈ (first ++ [c]) ++ numeral := by simp
  rcases isNumeral_cases (hnumeral.isNumeral c hc) with hdigit | hsigned | rfl
  · exact absurd (hbefore (.inl hdigit)) hsign
  · rcases isSign_iff.mp hsigned with rfl | rfl
    · rw [List.append_assoc] at hnumeral
      obtain rfl : first = [] := by
        by_contra hne
        exact hnumeral.not_hasSign_of_append hne ⟨'+', rfl, hsigned⟩
      rfl
    · exact absurd (hbefore (.inr rfl)) hsign
  · rcases hpoint rfl with hsigned | hmem
    · exact absurd hsigned hsign
    · exact absurd hmem (hnumeral.point_notMem_of_append (by simp))

end Captured

-- ============================================================================
-- What a text states
-- ============================================================================

/-- The numeral after `pre` is a whole number of the text: directly before it is no digit, sign
    or point, or only one that separates it from a clause of the other control. -/
def Complete (word : Char → Bool) (control : Control) (text pre : List Char) : Prop :=
  (∀ c ∈ pre.getLast?, isNumeral c = false) ∨
    ∃ upTo separation, pre = upTo ++ separation ∧
      Clause (alphanumeric word) control.other text upTo ∧
      ∀ c ∈ separation, alphanumeric word c = false

/-- The text states one complete percentage for each control, with its numeral after `pre` and
    after `pre'`, and every percentage that is written for a control is one of them.  Here an
    underscore is punctuation, as for a reader. -/
structure StatesBoth (word : Char → Bool) (text pre numeral pre' numeral' : List Char) : Prop where
  stopLoss : Phrased (alphanumeric word) .stopLoss text pre numeral
  takeProfit : Phrased (alphanumeric word) .takeProfit text pre' numeral'
  complete : Complete word .stopLoss text pre
  complete' : Complete word .takeProfit text pre'
  only : ∀ control other otherNumeral,
    Phrased (alphanumeric word) control text other otherNumeral →
      other ++ otherNumeral = pre ++ numeral ∨ other ++ otherNumeral = pre' ++ numeral'

/-- The text states a stop-loss of `x` and a take-profit of `y` percent, both in the range. -/
def States (word : Char → Bool) (text : List Char) (x y : Decimal) : Prop :=
  (∃ pre numeral pre' numeral', StatesBoth word text pre numeral pre' numeral' ∧
    decimalOfText (.ofList numeral) = some (.finite x) ∧
    decimalOfText (.ofList numeral') = some (.finite y)) ∧
  (0 < x ∧ x ≤ maxRiskPercent) ∧ 0 < y ∧ y ≤ maxRiskPercent

/-- Where a digit before something else stands: at the end of the numeral, or later. -/
theorem digit_place {first numeral rest before after : List Char} {d : Char}
    (hfirst : ∀ c ∈ first, isDigit c = false) (hnumeral : Numeral numeral)
    (hd : isDigit d = true) (hafter : ∀ c ∈ after.head?, isNumeral c = false)
    (h : first ++ (numeral ++ rest) = (before ++ [d]) ++ after) :
    before ++ [d] = first ++ numeral ∨
      ∃ between, before ++ [d] = first ++ (numeral ++ (between ++ [d])) ∧
        rest = (between ++ [d]) ++ after := by
  have hsplit : first ++ (numeral ++ rest) = before ++ d :: after := by
    rw [h, List.append_assoc, List.singleton_append]
  have hnot : d ∉ first := fun hmem => by
    rw [hfirst d hmem] at hd
    cases hd
  obtain ⟨middle, rfl, hmiddle⟩ := append_notMem_prefix hnot hsplit
  have hend : numeral ++ rest = (middle ++ [d]) ++ after := by
    rw [hmiddle, List.append_assoc, List.singleton_append]
  rcases List.append_eq_append_iff.mp hend with ⟨more, heq, hrest⟩ | ⟨more, rfl, hrest⟩
  · obtain rfl | hmore := eq_or_ne more []
    · rw [List.append_nil] at heq
      exact .inl (by rw [List.append_assoc, heq])
    · have hlast : more.getLast hmore = d := by
        have hlast := congrArg List.getLast? heq
        rw [List.getLast?_concat, List.getLast?_append_of_ne_nil _ hmore,
          List.getLast?_eq_some_getLast hmore] at hlast
        exact (Option.some.inj hlast).symm
      have hsplit : more.dropLast ++ [d] = more := by
        rw [← hlast, List.dropLast_append_getLast]
      exact .inr ⟨more.dropLast, by rw [hsplit, List.append_assoc, heq], by rw [hsplit, hrest]⟩
  · cases more with
    | nil => exact .inl (by rw [List.append_nil, List.append_assoc])
    | cons c more =>
        have hnumeralHead := hnumeral.isNumeral c (List.mem_append_right _ (List.mem_cons_self ..))
        rw [hafter c (by rw [hrest]; rfl)] at hnumeralHead
        cases hnumeralHead

/-- Two clauses, one for each control in either order, and no digits around their numerals. -/
theorem StatesBoth.of_clauses {word : Char → Bool} {text pre numeral middle numeral' post :
    List Char} (control : Control)
    (htext : text = pre ++ (numeral ++ (middle ++ (numeral' ++ post))))
    (hpre : ∀ c ∈ pre, isDigit c = false) (hmiddle : ∀ c ∈ middle, isDigit c = false)
    (hpost : ∀ c ∈ post, isDigit c = false)
    (hfirst : Phrased (alphanumeric word) control text pre numeral)
    (hsecond : Phrased (alphanumeric word) control.other text (pre ++ (numeral ++ middle)) numeral')
    (hcomplete : Complete word control text pre)
    (hcomplete' : Complete word control.other text (pre ++ (numeral ++ middle))) :
    match control with
    | .stopLoss => StatesBoth word text pre numeral (pre ++ (numeral ++ middle)) numeral'
    | .takeProfit => StatesBoth word text (pre ++ (numeral ++ middle)) numeral' pre numeral := by
  have honly : ∀ other before otherNumeral,
      Phrased (alphanumeric word) other text before otherNumeral →
        before ++ otherNumeral = pre ++ numeral ∨
          before ++ otherNumeral = (pre ++ (numeral ++ middle)) ++ numeral' := by
    intro other before otherNumeral hother
    obtain ⟨rest, hrest, hotherNumeral, hhead⟩ := hother.split
    obtain ⟨front, d, rfl, hd⟩ := hotherNumeral.concat
    rw [← List.append_assoc]
    have heq : pre ++ (numeral ++ (middle ++ (numeral' ++ post))) =
        ((before ++ front) ++ [d]) ++ rest := by
      rw [← htext, hrest]
      simp only [List.append_assoc]
    rcases digit_place hpre hfirst.numeralForm hd hhead heq with hend | ⟨between, hend, heq'⟩
    · exact .inl hend
    · rcases digit_place hmiddle hsecond.numeralForm hd hhead heq' with hend' | ⟨last, -, rfl⟩
      · refine .inr ?_
        rw [hend, hend']
        simp only [List.append_assoc]
      · have hnot := hpost d (by simp)
        rw [hd] at hnot
        cases hnot
  cases control with
  | stopLoss => exact ⟨hfirst, hsecond, hcomplete, hcomplete', honly⟩
  | takeProfit =>
      exact ⟨hsecond, hfirst, hcomplete', hcomplete,
        fun other before otherNumeral hother => (honly other before otherNumeral hother).symm⟩

-- ============================================================================
-- Texts without underscores and signs
-- ============================================================================

/-- No underscore, and no sign or decimal point directly before a digit. -/
structure PlainText (text : List Char) : Prop where
  underscore : '_' ∉ text
  digits : text.IsChain fun c d => isDigit d = true → isNumeral c = true → isDigit c = true

section Plain

variable {word : Char → Bool} {control : Control} {text pre numeral rest : List Char}

theorem PlainText.pair (h : PlainText text) {c d : Char} (htext : text = pre ++ c :: d :: rest)
    (hd : isDigit d = true) (hc : isNumeral c = true) : isDigit c = true := by
  have hchain := h.digits
  rw [htext] at hchain
  exact (List.isChain_cons_cons.mp (List.isChain_append.mp hchain).2.1).1 hd hc

/-- A numeral of a plain text begins with a digit. -/
theorem PlainText.head (h : PlainText text) (htext : text = pre ++ (numeral ++ rest))
    (hnumeral : Numeral numeral) : ∃ d more, numeral = d :: more ∧ isDigit d = true := by
  have hdigits {digits : List Char} (hdigits : Digits digits) :
      ∃ d more, digits = d :: more ∧ isDigit d = true := by
    obtain ⟨d, more, rfl⟩ := List.exists_cons_of_ne_nil hdigits.1
    exact ⟨d, more, rfl, hdigits.2 d (List.mem_cons_self ..)⟩
  -- a sign or a point would stand before a digit
  have hpoint {before fraction after : List Char} (hfraction : Digits fraction)
      (heq : text = before ++ '.' :: (fraction ++ after)) : False := by
    obtain ⟨d, more, rfl, hd⟩ := hdigits hfraction
    have hnot := h.pair heq hd (by decide)
    rw [isDigit_point] at hnot
    cases hnot
  cases hnumeral with
  | unsigned hmagnitude =>
      cases hmagnitude with
      | whole hwhole => exact hdigits hwhole
      | @decimal whole fraction hwhole hfraction =>
          obtain ⟨d, more, rfl, hd⟩ := hdigits hwhole
          exact ⟨d, more ++ '.' :: fraction, rfl, hd⟩
      | fraction hfraction => exact (hpoint hfraction htext).elim
  | @signed sign magnitude hsign hmagnitude =>
      exfalso
      have hsigned {d : Char} {more : List Char} (hmagnitude : magnitude = d :: more)
          (hd : isDigit d = true) : False := by
        subst hmagnitude
        have hnot := h.pair htext hd (by rw [isNumeral, hsign, Bool.or_true, Bool.true_or])
        rw [isDigit_of_isSign hsign] at hnot
        cases hnot
      cases hmagnitude with
      | whole hwhole =>
          obtain ⟨d, more, heq, hd⟩ := hdigits hwhole
          exact hsigned heq hd
      | decimal hwhole hfraction =>
          obtain ⟨d, more, rfl, hd⟩ := hdigits hwhole
          exact hsigned rfl hd
      | @fraction fraction hfraction =>
          have hsplit : text = (pre ++ [sign]) ++ '.' :: (fraction ++ rest) := by
            rw [htext, List.append_assoc]
            rfl
          exact hpoint hfraction hsplit

/-- A clause ends with a letter or a percent sign. -/
theorem Clause.last {upTo : List Char} (h : Clause word control text upTo) :
    ∀ c ∈ upTo.getLast?, isDigit c = false := by
  cases h with
  | @trailing pre numeral tail post htext hnumeral htail =>
      obtain ⟨front, c, rfl, hc⟩ := htail.concat control.phrase_classes
      have hdigit := htail.not_isDigit control.phrase_classes
      simp only [← List.append_assoc]
      exact last_concat (hdigit c (by simp)) _
  | @leading lead before said gap numeral sign post hlead htext hnumeral hleading hsign =>
      obtain ⟨hne, -, hdigit⟩ := hsign.chars
      intro c hc
      rw [List.getLast?_append_of_ne_nil _ (List.append_ne_nil_of_right_ne_nil _ hne),
        List.getLast?_append_of_ne_nil _ hne] at hc
      exact hdigit c (List.mem_of_getLast? hc)

/-- In a plain text nothing of a number stands directly before a complete one. -/
theorem Complete.last (hword : WordClass word) (hplain : PlainText text)
    (h : Complete word control text pre) (htext : text = pre ++ (numeral ++ rest))
    (hnumeral : Numeral numeral) : ∀ c ∈ pre.getLast?, isNumeral c = false := by
  intro c hc
  rw [Bool.eq_false_iff]
  intro hnumeralChar
  obtain ⟨d, more, rfl, hd⟩ := hplain.head htext hnumeral
  obtain ⟨front, rfl⟩ := List.getLast?_eq_some_iff.mp hc
  have hdigit : isDigit c = true :=
    hplain.pair (htext.trans (List.append_assoc ..)) hd hnumeralChar
  rcases h with hnone | ⟨upTo, separation, hpre, hclause, hseparation⟩
  · rw [hnone c hc] at hnumeralChar
    cases hnumeralChar
  · obtain rfl | hne := eq_or_ne separation []
    · rw [List.append_nil] at hpre
      rw [hpre] at hc
      rw [hclause.last c hc] at hdigit
      cases hdigit
    · rw [hpre, List.getLast?_append_of_ne_nil _ hne] at hc
      have hnot := hseparation c (List.mem_of_getLast? hc)
      rw [hword.alphanumeric.digit c hdigit] at hnot
      cases hnot

end Plain

-- ============================================================================
-- Each percentage belongs to one control
-- ============================================================================

/-- No percentage is captured for both controls; one for each is extracted as such; and a control
    is set from a percentage that is not captured for the other. -/
structure BelongsToOne (word : Char → Bool) (rendering : Rendering) (text : String) : Prop where
  apart : ∀ capture, ¬ (capture ∈ Control.stopLoss.captured word text.toList ∧
    capture ∈ Control.takeProfit.captured word text.toList)
  both : ∀ x y, States word text.toList x y →
    extractRiskControlsFrom word rendering text = .ok ⟨some x, some y⟩
  alone : ∀ (control : Control) v, control.extract word rendering text = .ok (some v) →
    ∃ capture ∈ control.captured word text.toList, percentOf control.label capture = .ok v ∧
      capture ∉ control.other.captured word text.toList

section Stated

variable {word : Char → Bool} {rendering : Rendering} {control : Control} {text : String}
  {v : Decimal}

end Stated

/-- A stop-loss of 5% and a take-profit of 10%, whatever punctuation or blanks separate them. -/
theorem statesBoth_separated {word : Char → Bool} (hword : WordClass word)
    (pre separation post : List Char) (hpre : ∀ c ∈ pre, isDigit c = false)
    (hlast : ∀ c ∈ pre.getLast?, isNumeral c = false)
    (hseparation : ∀ c ∈ separation, alphanumeric word c = false) (hne : separation ≠ [])
    (hpost : ∀ c ∈ post, isDigit c = false)
    (hhead : ∀ c ∈ post.head?, alphanumeric word c = false) :
    StatesBoth word (pre ++ ("5".toList ++ (("% stop loss".toList ++ separation) ++
        ("10".toList ++ ("% take profit".toList ++ post))))) pre "5".toList
      (pre ++ ("5".toList ++ ("% stop loss".toList ++ separation))) "10".toList := by
  have hfive : Numeral "5".toList := .unsigned (.whole ⟨by decide, by decide⟩)
  have hten : Numeral "10".toList := .unsigned (.whole ⟨by decide, by decide⟩)
  have hpercent (rest : List Char) : PercentSign (alphanumeric word) "%".toList rest :=
    ⟨[], ['%'], rfl, nofun, .inl rfl⟩
  have hdigit : ∀ c ∈ separation, isDigit c = false := fun c hc => by
    rw [Bool.eq_false_iff]
    intro hdigit
    have hnot := hseparation c hc
    rw [hword.alphanumeric.digit c hdigit] at hnot
    cases hnot
  have hstop : Trailing (alphanumeric word) Control.stopLoss.phrase "% stop loss".toList
      (separation ++ ("10".toList ++ ("% take profit".toList ++ post))) := by
    refine ⟨⟨"%".toList, " ".toList, "stop loss".toList, rfl, hpercent _, by decide,
      by unfold Blanks; decide, by unfold Spelled; decide⟩, fun c hc => ?_⟩
    rw [List.head?_append_of_ne_nil _ hne] at hc
    exact hseparation c (List.mem_of_mem_head? hc)
  have htake : Trailing (alphanumeric word) Control.takeProfit.phrase "% take profit".toList post :=
    ⟨⟨"%".toList, " ".toList, "take profit".toList, rfl, hpercent _, by decide,
      by unfold Blanks; decide, by unfold Spelled; decide⟩, hhead⟩
  have hfirst : Phrased (alphanumeric word) .stopLoss (pre ++ ("5".toList ++
      (("% stop loss".toList ++ separation) ++ ("10".toList ++ ("% take profit".toList ++ post)))))
      pre "5".toList := .trailing (by simp only [List.append_assoc]) hfive hstop
  have hsecond : Phrased (alphanumeric word) .takeProfit (pre ++ ("5".toList ++
      (("% stop loss".toList ++ separation) ++ ("10".toList ++ ("% take profit".toList ++ post)))))
      (pre ++ ("5".toList ++ ("% stop loss".toList ++ separation))) "10".toList :=
    .trailing (by simp only [List.append_assoc]) hten htake
  have hclause : Clause (alphanumeric word) .stopLoss (pre ++ ("5".toList ++
      (("% stop loss".toList ++ separation) ++ ("10".toList ++ ("% take profit".toList ++ post)))))
      (pre ++ ("5".toList ++ "% stop loss".toList)) :=
    .trailing (by simp only [List.append_assoc]) hfive hstop
  exact StatesBoth.of_clauses .stopLoss rfl hpre
    (List.forall_mem_append.mpr ⟨by decide, hdigit⟩)
    (List.forall_mem_append.mpr ⟨by decide, hpost⟩) hfirst hsecond (.inl hlast)
    (.inr ⟨_, separation, by simp only [List.append_assoc], hclause, hseparation⟩)

/-- An underscore, a minus sign or a point between the two clauses is not a separation to the
    patterns: the stop-loss is not found, the take-profit is rejected or another one. -/
theorem belongsToOne_separated : ∀ separation ∈ ['_', '-', '.'],
    ¬ BelongsToOne plainWord plainRendering
      (.ofList ("5% stop loss".toList ++ separation :: "10% take profit".toList)) := by
  intro separation hseparation h
  have hpunctuation : ∀ c ∈ ['_', '-', '.'], ∀ d ∈ [c], alphanumeric plainWord d = false := by
    decide
  have hstates : States plainWord
      ("5% stop loss".toList ++ separation :: "10% take profit".toList) 5 10 :=
    ⟨⟨[], "5".toList, _, "10".toList, statesBoth_separated plainWord_wordClass [] [separation] []
      (by decide) (by decide) (hpunctuation separation hseparation) (List.cons_ne_nil _ _)
      (by decide) (by decide), by decide +kernel, by decide +kernel⟩, by decide +kernel,
      by decide +kernel⟩
  have hextracted := h.both 5 10 (by rwa [String.toList_ofList])
  have hother : ∀ c ∈ ['_', '-', '.'], extractRiskControlsFrom plainWord plainRendering
      (.ofList ("5% stop loss".toList ++ c :: "10% take profit".toList)) ≠
        .ok ⟨some 5, some 10⟩ := by
    decide +kernel
  exact hother separation hseparation hextracted

/-- A plus sign does not change the value of the number after it. -/
example : extractRiskControlsFrom plainWord plainRendering "5% stop loss+10% take profit" =
    .ok ⟨some 5, some 10⟩ := by decide +kernel

end Services
end TradingPlatform
