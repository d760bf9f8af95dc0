/-
  TradingPlatform.Services.RiskPhrases

  The percentages of the two risk controls, and which of them are captured.

  A percentage stands before the phrase of its control or after one of its leads
  (`Phrased`).  A capture is such a percentage, at the match that was found
  (`mem_captured`).
-/

import TradingPlatform.Lib.JoinedText
import TradingPlatform.Lib.Loop
import TradingPlatform.Services.PercentPatterns

namespace TradingPlatform
namespace Services

open Python Schemas Regex Pattern JoinedText

-- ============================================================================
-- The two controls
-- ============================================================================

/-- The risk controls that a text can set. -/
inductive Control where
  | stopLoss
  | takeProfit
deriving DecidableEq, Repr

namespace Control

/-- The other of the two controls. -/
def other : Control → Control
  | .stopLoss => .takeProfit
  | .takeProfit => .stopLoss

/-- The phrase after a percentage. -/
def phrase : Control → List (Char → Bool)
  | .stopLoss => Services.stopLoss
  | .takeProfit => Services.takeProfit

/-- What leads to a percentage. -/
def leads : Control → List Pattern
  | .stopLoss => [ofOrAt Services.stopLoss,
      .seq (optional (.seq (chars (letters "the")) (several isSpace))) positionLoses]
  | .takeProfit => [ofOrAt Services.takeProfit, gains]

/-- The pattern tuple of a control. -/
def patterns (word : Char → Bool) : Control → List Pattern
  | .stopLoss => stopLossPatterns word
  | .takeProfit => takeProfitPatterns word

/-- The phrase that says a control is meant. -/
def phrasePattern (word : Char → Bool) : Control → Pattern
  | .stopLoss => stopLossPhrase word
  | .takeProfit => takeProfitPhrase word

/-- The control in an error about its percentage. -/
def label : Control → String
  | .stopLoss => "Stop-loss"
  | .takeProfit => "Take-profit"

/-- The control in an error about its conflicts. -/
def lowerLabel : Control → String
  | .stopLoss => "stop-loss"
  | .takeProfit => "take-profit"

/-- `extract_control_percent` with the arguments of the control. -/
def extract (control : Control) (word : Char → Bool) (rendering : Rendering) (text : String) :
    Except PyError (Option Decimal) :=
  extractControlPercentFrom rendering text (control.patterns word) (control.phrasePattern word)
    control.label control.lowerLabel

/-- What the patterns of the control capture. -/
def captured (control : Control) (word : Char → Bool) (text : List Char) : List Capture :=
  capturedValues (control.patterns word) text

theorem patterns_eq (control : Control) (word : Char → Bool) :
    control.patterns word =
      percentThen word control.phrase :: control.leads.map (percentAfter word) := by
  cases control <;> rfl

end Control

section Words

variable {phrase : List (Char → Bool)} {said : List Char}

theorem Control.phrase_classes (control : Control) : PhraseClasses control.phrase := by
  have hword (first second : String) (hfirst : ∀ c ∈ first.toList, c.isLower = true)
      (hsecond : ∀ c ∈ second.toList, c.isLower = true) (hne : letters second ≠ []) :
      PhraseClasses (letters first ++ dashOrSpace :: letters second) := by
    have hlettered := lettered_of_mem_letters hsecond
    refine ⟨List.forall_mem_append.mpr ⟨fun p hp => .inl (lettered_of_mem_letters hfirst p hp),
      List.forall_mem_cons.mpr ⟨.inr rfl, fun p hp => .inl (hlettered p hp)⟩⟩,
      letters first ++ dashOrSpace :: (letters second).dropLast, (letters second).getLast hne, ?_,
      hlettered _ (List.getLast_mem hne)⟩
    rw [List.append_assoc, List.cons_append, List.dropLast_append_getLast]
  cases control with
  | stopLoss => exact hword "stop" "loss" (by decide) (by decide) (List.cons_ne_nil _ _)
  | takeProfit => exact hword "take" "profit" (by decide) (by decide) (List.cons_ne_nil _ _)

theorem spells_letters {spelling : String} :
    (chars (letters spelling)).Spells said ↔ Spelled (letters spelling) said := spells_chars

theorem spells_ofOrAt : (ofOrAt phrase).Spells said ↔
    ∃ noun rest, said = noun ++ rest ∧ Spelled phrase noun ∧
      (rest = [] ∨ ∃ gap of, rest = gap ++ of ∧ (gap ≠ [] ∧ Blanks gap) ∧
        (Spelled (letters "of") of ∨ Spelled (letters "at") of)) := by
  have hof : (alt (chars (letters "of")) (chars (letters "at"))).Plain :=
    ⟨plain_chars _, plain_chars _⟩
  have hrest : (seq (several isSpace) (alt (chars (letters "of")) (chars (letters "at")))).Plain :=
    ⟨plain_several _, hof⟩
  rw [ofOrAt, spells_seq (plain_chars _) (plain_optional hrest)]
  simp only [spells_optional, spells_seq (plain_several _) hof, spells_alt, spells_several,
    spells_chars, Spelled, Blanks]
  refine exists_congr fun noun => exists_congr fun rest => ?_
  rw [or_comm]

theorem spells_gains : gains.Spells said ↔
    ∃ gain ending, said = gain ++ ending ∧ Spelled (letters "gain") gain ∧
      (ending = [] ∨ Spelled (letters "s") ending ∨ Spelled (letters "ing") ending) := by
  have hending : (alt (chars (letters "s")) (chars (letters "ing"))).Plain :=
    ⟨plain_chars _, plain_chars _⟩
  rw [gains, spells_seq (plain_chars _) (plain_optional hending)]
  simp only [spells_optional, spells_alt, spells_chars, Spelled]
  refine exists_congr fun noun => exists_congr fun rest => ?_
  rw [or_comm]

theorem spells_positionLoses : positionLoses.Spells said ↔
    ∃ position gap los ending, said = position ++ (gap ++ (los ++ ending)) ∧
      Spelled (letters "position") position ∧ (gap ≠ [] ∧ Blanks gap) ∧
      Spelled (letters "los") los ∧
      (Spelled (letters "e") ending ∨ Spelled (letters "es") ending ∨
        Spelled (letters "ing") ending) := by
  have hending : (alt (chars (letters "e")) (alt (chars (letters "es"))
      (chars (letters "ing")))).Plain := ⟨plain_chars _, plain_chars _, plain_chars _⟩
  have hlos := plain_seq (plain_chars (letters "los")) hending
  rw [positionLoses, spells_seq (plain_chars _) (plain_seq (plain_several _) hlos)]
  simp only [spells_seq (plain_several _) hlos, spells_seq (plain_chars _) hending,
    spells_several, spells_alt, spells_chars, Spelled, Blanks]
  constructor
  · rintro ⟨position, _, rfl, hposition, gap, _, rfl, hgap, los, ending, rfl, hlos, hend⟩
    exact ⟨position, gap, los, ending, rfl, hposition, hgap, hlos, hend⟩
  · rintro ⟨position, gap, los, ending, rfl, hposition, hgap, hlos, hend⟩
    exact ⟨position, _, rfl, hposition, gap, _, rfl, hgap, los, ending, rfl, hlos, hend⟩

theorem plain_positionLoses : positionLoses.Plain :=
  plain_seq (plain_chars _) (plain_seq (plain_several _) (plain_seq (plain_chars _)
    ⟨plain_chars _, plain_chars _, plain_chars _⟩))

section Consumed

theorem consumed_of_lettered {c : Char} {p : Char → Bool} (hp : Lettered p) (hc : p c = true) :
    isDigit c = false ∧ c ≠ '.' := by
  obtain ⟨l, hl, rfl⟩ := hp
  refine ⟨isDigit_of_letter hl hc, ?_⟩
  rintro rfl
  have hnumeral := isNumeral_of_letter hl hc
  revert hnumeral
  decide

theorem consumed_of_isSpace {c : Char} (hc : isSpace c = true) : isDigit c = false ∧ c ≠ '.' := by
  refine ⟨isDigit_of_isSpace hc, ?_⟩
  rintro rfl
  revert hc
  decide

theorem PhraseClasses.consumed (h : PhraseClasses phrase) :
    (chars phrase).Consumes fun c => isDigit c = false ∧ c ≠ '.' := by
  refine consumes_chars.mpr fun p hp c hc => ?_
  rcases h.classes p hp with hlettered | rfl
  · exact consumed_of_lettered hlettered hc
  · rw [dashOrSpace, Bool.or_eq_true, decide_eq_true_eq, decide_eq_true_eq] at hc
    rcases hc with rfl | rfl <;> exact ⟨isDigit_eq_false (by decide), by decide⟩

theorem consumed_letters {spelling : String} (h : ∀ c ∈ spelling.toList, c.isLower = true) :
    (chars (letters spelling)).Consumes fun c => isDigit c = false ∧ c ≠ '.' :=
  consumes_chars.mpr fun p hp _ hc => consumed_of_lettered (lettered_of_mem_letters h p hp) hc

theorem consumed_blanks :
    (several isSpace).Consumes fun c => isDigit c = false ∧ c ≠ '.' :=
  ⟨fun _ => consumed_of_isSpace, fun _ => consumed_of_isSpace⟩

theorem consumed_positionLoses :
    positionLoses.Consumes fun c => isDigit c = false ∧ c ≠ '.' :=
  ⟨consumed_letters (by decide), consumed_blanks, consumed_letters (by decide),
    consumed_letters (by decide), consumed_letters (by decide), consumed_letters (by decide)⟩

end Consumed

theorem leadPattern_ofOrAt (control : Control) : LeadPattern (ofOrAt control.phrase) where
  plain := plain_seq (plain_chars _)
    (plain_optional (plain_seq (plain_several _) ⟨plain_chars _, plain_chars _⟩))
  chars := ⟨control.phrase_classes.consumed,
    ⟨consumed_blanks, consumed_letters (by decide), consumed_letters (by decide)⟩, trivial⟩
  first said h := by
    obtain ⟨noun, rest, rfl, hnoun, -⟩ := spells_ofOrAt.mp h
    refine BeginsWithWord.append ?_
    cases control with
    | stopLoss =>
        obtain ⟨stop, rest, rfl, hstop, -⟩ := spelled_append.mp hnoun
        exact ⟨"stop", by decide, stop, rest, rfl, hstop⟩
    | takeProfit =>
        obtain ⟨take, rest, rfl, htake, -⟩ := spelled_append.mp hnoun
        exact ⟨"take", by decide, take, rest, rfl, htake⟩
  last said h := by
    obtain ⟨noun, rest, rfl, hnoun, rfl | ⟨gap, of, rfl, -, hof⟩⟩ := spells_ofOrAt.mp h
    · obtain ⟨front, p, heq, hp⟩ := control.phrase_classes.last
      rw [List.append_nil]
      rw [heq] at hnoun
      exact hnoun.endsWithLetter hp
    · refine EndsWithLetter.append (EndsWithLetter.append ?_)
      rcases hof with hof | hof
      · exact (hof.word (by decide) (by decide)).2
      · exact (hof.word (by decide) (by decide)).2

theorem leadPattern_gains : LeadPattern gains where
  plain := plain_seq (plain_chars _) (plain_optional ⟨plain_chars _, plain_chars _⟩)
  chars := ⟨consumed_letters (by decide),
    ⟨consumed_letters (by decide), consumed_letters (by decide)⟩, trivial⟩
  first said h := by
    obtain ⟨gain, ending, rfl, hgain, -⟩ := spells_gains.mp h
    exact ⟨"gain", by decide, gain, ending, rfl, hgain⟩
  last said h := by
    obtain ⟨gain, ending, rfl, hgain, rfl | hending | hending⟩ := spells_gains.mp h
    · rw [List.append_nil]
      exact (hgain.word (by decide) (by decide)).2
    · exact (hending.word (by decide) (by decide)).2.append
    · exact (hending.word (by decide) (by decide)).2.append

theorem leadPattern_positionLoses :
    LeadPattern
      (.seq (optional (.seq (chars (letters "the")) (several isSpace))) positionLoses) := by
  have hthe := plain_seq (plain_chars (letters "the")) (plain_several isSpace)
  have hspells {said : List Char} :
      (seq (optional (.seq (chars (letters "the")) (several isSpace))) positionLoses).Spells said →
      ∃ the position, said = the ++ position ∧ (BeginsWithWord the ∨ the = []) ∧
        positionLoses.Spells position := by
    intro h
    obtain ⟨the, position, rfl, h, hposition⟩ :=
      (spells_seq (plain_optional hthe) plain_positionLoses).mp h
    refine ⟨the, position, rfl, (spells_optional.mp h).imp_left fun h => ?_, hposition⟩
    obtain ⟨the, gap, rfl, h, -⟩ := (spells_seq (plain_chars _) (plain_several _)).mp h
    exact ⟨"the", by decide, the, gap, rfl, spells_letters.mp h⟩
  refine ⟨plain_seq (plain_optional hthe) plain_positionLoses,
    ⟨⟨⟨consumed_letters (by decide), consumed_blanks⟩, trivial⟩, consumed_positionLoses⟩,
    fun said h => ?_, fun said h => ?_⟩
  · obtain ⟨the, position, rfl, hthe | rfl, hposition⟩ := hspells h
    · exact hthe.append
    · obtain ⟨position, _, _, _, rfl, hword, -⟩ := spells_positionLoses.mp hposition
      exact ⟨"position", by decide, position, _, rfl, hword⟩
  · obtain ⟨the, position, rfl, -, hposition⟩ := hspells h
    obtain ⟨position, gap, los, ending, rfl, -, -, -, hending⟩ :=
      spells_positionLoses.mp hposition
    refine EndsWithLetter.append (EndsWithLetter.append (EndsWithLetter.append
      (EndsWithLetter.append ?_)))
    rcases hending with hending | hending | hending
    all_goals exact (hending.word (by decide) (by decide)).2

theorem Control.leadPattern (control : Control) : ∀ lead ∈ control.leads, LeadPattern lead := by
  cases control with
  | stopLoss =>
      exact List.forall_mem_cons.mpr ⟨leadPattern_ofOrAt .stopLoss,
        List.forall_mem_singleton.mpr leadPattern_positionLoses⟩
  | takeProfit =>
      exact List.forall_mem_cons.mpr ⟨leadPattern_ofOrAt .takeProfit,
        List.forall_mem_singleton.mpr leadPattern_gains⟩

end Words

-- ============================================================================
-- Captures
-- ============================================================================

/-- A match of a trailing pattern that was found. -/
structure TrailingFound (word : Char → Bool) (control : Control) (text : List Char) (m : Found)
    (numeral tail : List Char) : Prop where
  mem : m ∈ (percentThen word control.phrase).finditer text
  body_eq : m.body = numeral ++ tail
  numeralForm : Numeral numeral
  tailForm : Trailing word control.phrase tail m.post
  group_eq : m.group 1 = some ⟨1, m.pre.length, numeral⟩

/-- A match of a leading pattern that was found. -/
structure LeadingFound (word : Char → Bool) (lead : Pattern) (text : List Char) (m : Found)
    (said gap numeral sign : List Char) : Prop where
  mem : m ∈ (percentAfter word lead).finditer text
  body_eq : m.body = said ++ (gap ++ (numeral ++ sign))
  leading : Leading word lead m.pre said gap
  numeralForm : Numeral numeral
  signForm : PercentSign word sign m.post
  group_eq : m.group 1 = some ⟨1, (m.pre ++ (said ++ gap)).length, numeral⟩

section Captures

variable {word : Char → Bool} {control : Control} {lead : Pattern} {text : List Char} {m : Found}
  {numeral tail said gap sign : List Char}

theorem group_of_captures {capture : Capture} (h : m.captures = [capture])
    (hgroup : capture.group = 1) : m.group 1 = some capture := by
  unfold Found.group
  rw [h, List.find?_cons_of_pos (by rw [decide_eq_true_eq]; exact hgroup)]

theorem exists_trailingFound (hword : WordClass word)
    (hm : m ∈ (percentThen word control.phrase).finditer text) :
    ∃ numeral tail, TrailingFound word control text m numeral tail := by
  obtain ⟨numeral, tail, hbody, hnumeral, htail, hcaptures⟩ :=
    (matches_percentThen hword control.phrase_classes).mp (finditer_matches hm).matched
  exact ⟨numeral, tail, hm, hbody, hnumeral, htail, group_of_captures hcaptures rfl⟩

theorem exists_leadingFound (hword : WordClass word) (hlead : LeadPattern lead)
    (hm : m ∈ (percentAfter word lead).finditer text) :
    ∃ said gap numeral sign, LeadingFound word lead text m said gap numeral sign := by
  obtain ⟨said, gap, numeral, sign, hbody, hleading, hnumeral, hsign, hcaptures⟩ :=
    (matches_percentAfter hword hlead).mp (finditer_matches hm).matched
  exact ⟨said, gap, numeral, sign, hm, hbody, hleading, hnumeral, hsign,
    group_of_captures hcaptures rfl⟩

theorem TrailingFound.text_eq (h : TrailingFound word control text m numeral tail) :
    text = m.pre ++ (numeral ++ (tail ++ m.post)) := by
  rw [← (finditer_matches h.mem).text_eq, h.body_eq]
  simp only [List.append_assoc]

theorem LeadingFound.text_eq (h : LeadingFound word lead text m said gap numeral sign) :
    text = (m.pre ++ (said ++ gap)) ++ (numeral ++ (sign ++ m.post)) := by
  rw [← (finditer_matches h.mem).text_eq, h.body_eq]
  simp only [List.append_assoc]

/-- The captures are those of the matches that were found. -/
theorem mem_captured (hword : WordClass word) {capture : Capture} :
    capture ∈ control.captured word text ↔
      (∃ m numeral tail, TrailingFound word control text m numeral tail ∧
        capture = ⟨1, m.pre.length, numeral⟩) ∨
      ∃ lead ∈ control.leads, ∃ m said gap numeral sign,
        LeadingFound word lead text m said gap numeral sign ∧
        capture = ⟨1, (m.pre ++ (said ++ gap)).length, numeral⟩ := by
  unfold Control.captured capturedValues
  rw [control.patterns_eq, List.flatMap_cons, List.mem_append, List.flatMap_map, List.mem_flatMap]
  simp only [List.mem_filterMap]
  refine or_congr ?_ (exists_congr fun lead => and_congr_right fun hlead => ?_)
  · constructor
    · rintro ⟨m, hm, hgroup⟩
      obtain ⟨numeral, tail, h⟩ := exists_trailingFound hword hm
      exact ⟨m, numeral, tail, h, Option.some.inj (hgroup.symm.trans h.group_eq)⟩
    · rintro ⟨m, numeral, tail, h, rfl⟩
      exact ⟨m, h.mem, h.group_eq⟩
  · constructor
    · rintro ⟨m, hm, hgroup⟩
      obtain ⟨said, gap, numeral, sign, h⟩ :=
        exists_leadingFound hword (control.leadPattern lead hlead) hm
      exact ⟨m, said, gap, numeral, sign, h, Option.some.inj (hgroup.symm.trans h.group_eq)⟩
    · rintro ⟨m, said, gap, numeral, sign, h, rfl⟩
      exact ⟨m, h.mem, h.group_eq⟩

-- ============================================================================
-- Where a match is found
-- ============================================================================

/-- A found match does not start inside of a numeral: the pattern would match further to the
    left, and no match ends inside of a numeral. -/
theorem TrailingFound.leftmost (hword : WordClass word)
    (h : TrailingFound word control text m numeral tail) {before front : List Char}
    (hpre : m.pre = before ++ front) (hfront : front ≠ []) : ¬ Numeral (front ++ numeral) := by
  intro hnumeral
  have htext : before ++ ((front ++ numeral) ++ tail) ++ m.post = text := by
    rw [h.text_eq, hpre]
    simp only [List.append_assoc]
  obtain ⟨n, hn, hplace⟩ := finditer_covers htext ((matches_percentThen hword
    control.phrase_classes).mpr ⟨_, tail, rfl, hnumeral, h.tailForm, rfl⟩)
  obtain ⟨other, otherTail, hother⟩ := exists_trailingFound hword hn
  obtain ⟨x, c, hconcat, hc⟩ := hother.tailForm.concat control.phrase_classes
  have hbody : n.body = other ++ x ++ [c] := by
    rw [hother.body_eq, hconcat, List.append_assoc]
  have hlength : n.body.length = other.length + x.length + 1 := by
    rw [hbody]
    simp only [List.length_append, List.length_singleton]
  have hprefix : m.pre.length = before.length + front.length := by
    rw [hpre, List.length_append]
  have hpositive : 0 < front.length := List.length_pos_iff.mpr hfront
  have hbefore : n.pre.length ≤ before.length ∧ before.length < n.pre.length + n.body.length := by
    rcases hplace with heq | ⟨hlt, hinside⟩
    · rw [heq, hlength]
      omega
    · exact ⟨hlt.le, hinside⟩
  have hend := finditer_disjoint hn h.mem (by omega)
  have hmem : c ∈ front := by
    have hvalid := (finditer_matches hn).text_eq
    have hsame : (n.pre ++ (other ++ x)) ++ c :: n.post =
        before ++ (front ++ (numeral ++ (tail ++ m.post))) := by
      rw [hbody, ← htext] at hvalid
      simpa only [List.append_assoc, List.cons_append, List.nil_append] using hvalid
    refine mem_middle_of_append hsame ?_ ?_
    · simp only [List.length_append]
      omega
    · simp only [List.length_append]
      omega
  rw [hnumeral.isNumeral c (List.mem_append_left _ hmem)] at hc
  cases hc

/-- Where a percentage stands before the phrase, a match is found that captures its numeral, or
    more of it. -/
theorem exists_trailingFound_of_trailing (hword : WordClass word) {pre post : List Char}
    (htext : text = pre ++ (numeral ++ (tail ++ post))) (hnumeral : Numeral numeral)
    (htail : Trailing word control.phrase tail post) :
    ∃ m front tail, TrailingFound word control text m (front ++ numeral) tail ∧
      pre = m.pre ++ front := by
  have hsplit : pre ++ (numeral ++ tail) ++ post = text := by
    rw [htext]
    simp only [List.append_assoc]
  obtain ⟨m, hm, front, rfl, hinside⟩ := finditer_covers_front hsplit ((matches_percentThen hword
    control.phrase_classes).mpr ⟨numeral, tail, rfl, hnumeral, htail, rfl⟩)
  obtain ⟨found, foundTail, h⟩ := exists_trailingFound hword hm
  have hsame := h.text_eq.symm.trans htext
  rw [List.append_assoc] at hsame
  refine ⟨m, front, foundTail, ?_, rfl⟩
  -- the place is inside of what is captured, or of the tail of the match
  rcases List.append_eq_append_iff.mp (List.append_cancel_left hsame) with
    ⟨more, rfl, htailText⟩ | ⟨more, rfl, htailText⟩
  · have hfound := h.numeralForm.ne_nil
    have hlt := hinside.resolve_left (List.append_ne_nil_of_left_ne_nil hfound _)
    rw [h.body_eq, List.length_append, List.length_append] at hlt
    obtain ⟨second, rfl⟩ : more <+: foundTail :=
      List.prefix_of_prefix_length_le ⟨_, htailText.symm⟩ ⟨_, rfl⟩ (by omega)
    have hne : second ≠ [] := by
      rintro rfl
      rw [List.append_nil] at hlt
      exact Nat.lt_irrefl _ hlt
    rw [List.append_assoc] at htailText
    exact absurd (List.append_cancel_left htailText)
      ((h.tailForm.clear control.phrase_classes).of_append.append_ne hne hnumeral)
  · obtain ⟨rfl, -⟩ := append_class_inj hnumeral.isNumeral
      (fun c hc => h.numeralForm.isNumeral c (List.mem_append_right _ hc))
      (htail.head_isNumeral _) (h.tailForm.head_isNumeral _) htailText
    exact h

theorem Spelled.prefix_or_prefix {spelling spelling' : String} {first first' rest rest' : List Char}
    (hspelling : ∀ c ∈ spelling.toList, c.isLower = true)
    (hspelling' : ∀ c ∈ spelling'.toList, c.isLower = true)
    (h : Spelled (letters spelling) first) (h' : Spelled (letters spelling') first')
    (heq : first ++ rest = first' ++ rest') :
    spelling.toList <+: spelling'.toList ∨ spelling'.toList <+: spelling.toList := by
  rw [← h.map_baseLetter hspelling, ← h'.map_baseLetter hspelling']
  exact (List.prefix_or_prefix_of_prefix ⟨rest, heq⟩ ⟨rest', rfl⟩).imp
    (fun h => h.map baseLetter) (fun h => h.map baseLetter)

theorem isLower_openingWords :
    ∀ spelling ∈ openingWords, ∀ c ∈ spelling.toList, c.isLower = true := by decide

/-- No lead begins inside of a percent sign. -/
theorem PercentSign.not_lead (hword : WordClass word) {sign post before first second after :
    List Char} (h : PercentSign word sign post) (hsign : sign = first ++ second)
    (hne : second ≠ []) (hboundary : ∀ c ∈ (before ++ first).getLast?, word c = false)
    {said : List Char} (hsaid : BeginsWithWord said) : second ++ post ≠ said ++ after := by
  intro heq
  obtain ⟨c, rest, l, hfirst, hl, hc⟩ := hsaid.beginsWithLetter
  obtain ⟨d, second, rfl⟩ := List.exists_cons_of_ne_nil hne
  obtain rfl : d = c := by
    rw [hfirst] at heq
    exact (List.cons.inj heq).1
  obtain ⟨gap, mark, rfl, hgap, hmark⟩ := h
  rcases append_cons_cases hsign with ⟨more, rfl, rfl⟩ | hblank
  · rcases hmark with hpercent | ⟨hspelled, -⟩
    · -- a percent sign is no letter
      have hmem : d ∈ ['%'] := hpercent ▸ List.mem_append_right more (List.mem_cons_self ..)
      obtain rfl := List.mem_singleton.mp hmem
      exact absurd (toNat_of_letter hl hc) (by decide)
    · obtain rfl | hmore := eq_or_ne more []
      · -- "percent" is no word that a lead begins with
        obtain ⟨spelling, hspelling, opening, tail, rfl, hopening⟩ := hsaid
        have hwords : ∀ spelling ∈ openingWords, ¬ ("percent".toList <+: spelling.toList ∨
            spelling.toList <+: "percent".toList) := by decide
        rw [List.append_assoc] at heq
        exact hwords spelling hspelling (hspelled.prefix_or_prefix isLower_percent
          (isLower_openingWords spelling hspelling) hopening heq)
      · -- inside of the word there is no boundary
        obtain ⟨p, hp, hpc⟩ := hspelled.of_mem (List.mem_append_left _ (List.getLast_mem hmore))
        obtain ⟨k, hk, rfl⟩ := lettered_of_mem_letters isLower_percent p hp
        have hnot := hboundary (more.getLast hmore) (by
          rw [← List.append_assoc, List.getLast?_append_of_ne_nil _ hmore]
          exact List.getLast?_eq_some_getLast hmore)
        rw [hword.letter k _ hk hpc] at hnot
        cases hnot
  · -- neither is a blank
    have hspace := hgap d hblank
    rw [isSpace_of_letter hl hc] at hspace
    cases hspace

/-- Where a percentage stands after a lead, a match is found that captures its numeral. -/
theorem exists_leadingFound_of_leading (hword : WordClass word) (hlead : LeadPattern lead)
    {before post : List Char}
    (htext : text = (before ++ (said ++ gap)) ++ (numeral ++ (sign ++ post)))
    (hleading : Leading word lead before said gap) (hnumeral : Numeral numeral)
    (hsign : PercentSign word sign post) :
    ∃ m said' gap' sign', LeadingFound word lead text m said' gap' numeral sign' ∧
      m.pre ++ (said' ++ gap') = before ++ (said ++ gap) := by
  have hsplit : before ++ (said ++ (gap ++ (numeral ++ sign))) ++ post = text := by
    rw [htext]
    simp only [List.append_assoc]
  obtain ⟨m, hm, front, rfl, hinside⟩ := finditer_covers_front hsplit
    ((matches_percentAfter hword hlead).mpr
      ⟨said, gap, numeral, sign, rfl, hleading, hnumeral, hsign, rfl⟩)
  obtain ⟨found, foundGap, foundNumeral, foundSign, h⟩ := exists_leadingFound hword hlead hm
  have hsame : (found ++ foundGap) ++ (foundNumeral ++ (foundSign ++ m.post)) =
      front ++ ((said ++ gap) ++ (numeral ++ (sign ++ post))) := by
    have heq := h.text_eq.symm.trans htext
    simp only [List.append_assoc] at heq ⊢
    exact List.append_cancel_left heq
  rcases List.append_eq_append_iff.mp hsame with ⟨more, rfl, hmore⟩ | ⟨more, hfront, hmore⟩
  · -- the lead would begin inside of the numeral or of the percent sign
    exfalso
    obtain ⟨c, rest, l, hfirst, hl, hc⟩ := (hlead.first said hleading.said).beginsWithLetter
    have hletter : foundNumeral ++ (foundSign ++ m.post) =
        more ++ c :: (rest ++ (gap ++ (numeral ++ (sign ++ post)))) := by
      rw [hmore, hfirst]
      simp only [List.append_assoc, List.cons_append]
    rcases append_cons_cases hletter with ⟨first, rfl, hafter⟩ | hnumeralMem
    · have hlt := hinside.resolve_left (by simp [h.numeralForm.ne_nil])
      rw [h.body_eq] at hlt
      simp only [List.length_append] at hlt
      obtain ⟨second, rfl⟩ : first <+: foundSign :=
        List.prefix_of_prefix_length_le ⟨_, hafter.symm⟩ ⟨_, rfl⟩ (by omega)
      have hne : second ≠ [] := by
        rintro rfl
        rw [List.append_nil] at hlt
        omega
      rw [List.append_assoc] at hafter
      have hboundary := hleading.boundary
      rw [← List.append_assoc, ← List.append_assoc] at hboundary
      have hnot : second ++ m.post ≠ said ++ (gap ++ (numeral ++ (sign ++ post))) :=
        h.signForm.not_lead hword rfl hne hboundary (hlead.first said hleading.said)
      refine hnot ?_
      rw [List.append_cancel_left hafter, hfirst, List.cons_append]
    · have hnumeralLetter := h.numeralForm.isNumeral c hnumeralMem
      rw [isNumeral_of_letter hl hc] at hnumeralLetter
      cases hnumeralLetter
  · have hclear := h.leading.clear hlead
    rw [hfront] at hclear
    obtain ⟨rfl, rfl, -⟩ := (hleading.clear hlead).numeral_unique hclear.of_append hnumeral
      h.numeralForm (hsign.head_isNumeral _) (h.signForm.head_isNumeral _) hmore
    exact ⟨m, found, foundGap, foundSign, h, by rw [hfront, List.append_assoc]⟩

end Captures

-- ============================================================================
-- The extracted value
-- ============================================================================

section Extraction

variable {word : Char → Bool} {control : Control} {rendering : Rendering} {text : String}

theorem require_eq_error {check : Prop} [Decidable check] {message : String} {e : PyError}
    (h : require check message = .error e) : e = .strategyValidationError message := by
  unfold require at h
  split at h
  · cases h
  · exact (Except.error.inj h).symm

/-- The value is that of a capture. -/
theorem Control.extract_eq_some {v : Decimal}
    (h : control.extract word rendering text = .ok (some v)) :
    ∃ capture ∈ control.captured word text.toList, percentOf control.label capture = .ok v := by
  obtain ⟨values, hvalues, h⟩ := Python.bind_eq_ok h
  refine Loop.mem_of_mapM_eq_ok hvalues v ?_
  rw [← List.mem_eraseDups]
  unfold extractControlPercent at h
  split at h
  · split at h <;> cases h
  · rename_i value hone
    obtain ⟨⟨⟩, -, h⟩ := Python.bind_eq_ok h
    obtain rfl := Option.some.inj (Except.ok.inj h)
    rw [hone]
    exact List.mem_singleton_self _
  · cases h

/-- A control that is mentioned is extracted or rejected. -/
theorem Control.extract_of_mentioned
    (hmentioned : ((control.phrasePattern word).search text.toList).isSome = true) :
    (∃ v, control.extract word rendering text = .ok (some v)) ∨
      ∃ message, control.extract word rendering text =
        .error (.strategyValidationError message) := by
  unfold Control.extract extractControlPercentFrom
  rw [hmentioned]
  cases hvalues : (capturedValues (control.patterns word) text.toList).mapM
      (percentOf control.label) with
  | error e =>
      obtain ⟨capture, -, herror⟩ := Loop.exists_of_mapM_eq_error hvalues
      unfold percentOf at herror
      split at herror
      · cases herror
      · obtain rfl := Except.error.inj herror
        exact .inr ⟨_, rfl⟩
  | ok values =>
      rw [Python.ok_bind]
      unfold extractControlPercent
      split
      · exact .inr ⟨_, rfl⟩
      · rename_i value hone
        cases hvalid : validateRiskPercent (some value) control.label with
        | ok done => exact .inl ⟨value, rfl⟩
        | error e =>
            obtain rfl := require_eq_error hvalid
            exact .inr ⟨_, rfl⟩
      · exact .inr ⟨_, rfl⟩

end Extraction

end Services
end TradingPlatform
