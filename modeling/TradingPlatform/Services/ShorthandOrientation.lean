/-
  TradingPlatform.Services.ShorthandOrientation

  The two periods of a crossover shorthand, in the order they are written.

  `ShorthandAt` is what the shorthand pattern matches, as a text; the first one
  of a text gives the periods of its hint (`findNormalizationHint_shorthand`).
  The first number becomes the faster average whatever it is, so the rules are
  oriented exactly when the numbers ascend or a cross is named.
-/

import TradingPlatform.Lib.JoinedText
import TradingPlatform.Services.PercentPatterns
import TradingPlatform.Services.StrategyPreview

namespace TradingPlatform
namespace Services

open Python Schemas Regex Pattern JoinedText

-- ============================================================================
-- Written shorthands
-- ============================================================================

/-- A crossover shorthand is written after `pre`: two numbers with a slash between them, and the
    word "crossover" in what is after them. -/
structure ShorthandAt (word : Char → Bool) (text pre first between second after : List Char) :
    Prop where
  text_eq : text = pre ++ (first ++ (between ++ (second ++ after)))
  boundary : ∀ c ∈ pre.getLast?, word c = false
  first : Digits first
  second : Digits second
  slash : ∃ gap gap', between = gap ++ '/' :: gap' ∧ Blanks gap ∧ Blanks gap'
  crossover : ∃ gap day post, after = gap ++ (day ++ ("crossover".toList ++ post)) ∧
    Blanks gap ∧ (day = [] ∨ ∃ gap', day = "day".toList ++ gap' ∧ Blanks gap') ∧
    ∀ c ∈ post.head?, word c = false

/-- No shorthand is written further to the left. -/
structure FirstShorthand (word : Char → Bool) (text pre first between second after : List Char) :
    Prop where
  written : ShorthandAt word text pre first between second after
  leftmost : ∀ pre' first' between' second' after',
    ShorthandAt word text pre' first' between' second' after' → pre.length ≤ pre'.length

section Written

variable {word : Char → Bool} {text pre first between second after : List Char}

theorem ShorthandAt.exchange (h : ShorthandAt word text pre first between second after) :
    ShorthandAt word (pre ++ (second ++ (between ++ (first ++ after)))) pre second between first
      after :=
  ⟨rfl, h.boundary, h.second, h.first, h.slash, h.crossover⟩

theorem isDigit_letters : isDigit '/' = false ∧ isDigit 'd' = false ∧ isDigit 'c' = false :=
  ⟨isDigit_eq_false (by decide), isDigit_eq_false (by decide), isDigit_eq_false (by decide)⟩

/-- The first number ends where the blanks and the slash begin. -/
theorem ShorthandAt.head_between (h : ShorthandAt word text pre first between second after)
    (rest : List Char) : ∀ c ∈ (between ++ rest).head?, isDigit c = false := by
  obtain ⟨gap, gap', rfl, hgap, -⟩ := h.slash
  rw [List.append_assoc]
  exact head_append (fun c hc => isDigit_of_isSpace (hgap c hc)) (head_cons isDigit_letters.1 _)

theorem ShorthandAt.head_after (h : ShorthandAt word text pre first between second after) :
    ∀ c ∈ after.head?, isDigit c = false := by
  obtain ⟨gap, day, post, rfl, hgap, hday, -⟩ := h.crossover
  refine head_append (fun c hc => isDigit_of_isSpace (hgap c hc)) ?_
  rcases hday with rfl | ⟨gap', rfl, -⟩
  · exact head_cons isDigit_letters.2.2 _
  · exact head_cons isDigit_letters.2.1 _

theorem isSpace_of_isDigit {c : Char} (h : isDigit c = true) : isSpace c = false := by
  rw [Bool.eq_false_iff]
  intro hspace
  rw [isDigit_of_isSpace hspace] at h
  cases h

theorem Digits.head_isDigit {digits : List Char} (h : Digits digits) (rest : List Char) :
    ∃ c tail, digits ++ rest = c :: tail ∧ isDigit c = true := by
  obtain ⟨c, tail, rfl⟩ := List.exists_cons_of_ne_nil h.1
  exact ⟨c, tail ++ rest, rfl, h.2 c (List.mem_cons_self ..)⟩

/-- What is written after a place has one reading. -/
theorem ShorthandAt.unique {first' between' second' after' : List Char}
    (h : ShorthandAt word text pre first between second after)
    (h' : ShorthandAt word text pre first' between' second' after') :
    first = first' ∧ between = between' ∧ second = second' ∧ after = after' := by
  have hrest := List.append_cancel_left (h.text_eq.symm.trans h'.text_eq)
  obtain ⟨rfl, hafter⟩ := append_class_inj h.first.2 h'.first.2 (h.head_between _)
    (h'.head_between _) hrest
  obtain ⟨gap, gap', rfl, hgap, hgap'⟩ := h.slash
  obtain ⟨other, other', rfl, hother, hother'⟩ := h'.slash
  rw [List.append_assoc, List.append_assoc] at hafter
  have hslash := head_cons (p := isSpace) (x := '/') (by decide)
  obtain ⟨rfl, hgaps⟩ := append_class_inj hgap hother (hslash _) (hslash _) hafter
  have hdigit {digits : List Char} (hdigits : Digits digits) (tail : List Char) :
      ∀ c ∈ (digits ++ tail).head?, isSpace c = false := by
    obtain ⟨d, _, heq, hd⟩ := hdigits.head_isDigit tail
    rw [heq]
    exact head_cons (isSpace_of_isDigit hd) _
  obtain ⟨rfl, hseconds⟩ := append_class_inj hgap' hother' (hdigit h.second _)
    (hdigit h'.second _) (List.cons.inj hgaps).2
  obtain ⟨rfl, rfl⟩ := append_class_inj h.second.2 h'.second.2 h.head_after h'.head_after hseconds
  exact ⟨rfl, rfl, rfl, rfl⟩

theorem FirstShorthand.unique {pre' first' between' second' after' : List Char}
    (h : FirstShorthand word text pre first between second after)
    (h' : FirstShorthand word text pre' first' between' second' after') :
    pre = pre' ∧ first = first' ∧ between = between' ∧ second = second' ∧ after = after' := by
  have hlength := Nat.le_antisymm (h.leftmost _ _ _ _ _ h'.written)
    (h'.leftmost _ _ _ _ _ h.written)
  obtain ⟨rfl, -⟩ := List.append_inj (h.written.text_eq.symm.trans h'.written.text_eq) hlength
  exact ⟨rfl, h.written.unique h'.written⟩

end Written

-- ============================================================================
-- What the pattern matches
-- ============================================================================

section Matched

variable {word : Char → Bool} {pre body post : List Char} {captures : List Capture}

theorem matches_literally {text : String} :
    (literally text).Matches pre body post captures ↔ body = text.toList ∧ captures = [] := by
  have hsame : (fun c d : Char => decide (d = c) = true) = Eq := by
    funext c d
    rw [decide_eq_true_eq]
    exact propext eq_comm
  rw [literally, matches_chars, List.forall₂_map_left_iff, hsame, List.forall₂_eq_eq_eq,
    eq_comm]

theorem WordClass.getLast?_crossover (hword : WordClass word) (pre : List Char) :
    ∃ c, (pre ++ "crossover".toList).getLast? = some c ∧ word c = true :=
  ⟨'r', by rw [List.getLast?_append]; rfl, hword.letter 'r' 'r' (by decide) (by decide)⟩

/-- `\s*(?:day\s*)?crossover\b` -/
theorem matches_crossover (hword : WordClass word)
    (h : (seq (many isSpace) (seq (optional (seq (literally "day") (many isSpace)))
      (seq (literally "crossover") (boundary word)))).Matches pre body post captures) :
    (∃ gap day, body = gap ++ (day ++ "crossover".toList) ∧ Blanks gap ∧
      (day = [] ∨ ∃ gap', day = "day".toList ++ gap' ∧ Blanks gap')) ∧
    (∀ c ∈ post.head?, word c = false) ∧ captures = [] := by
  obtain ⟨gap, _, _, _, rfl, rfl, ⟨hgap, rfl⟩, day, _, ofDay, _, rfl, rfl, hday, crossover, _, _, _,
    rfl, rfl, hcrossover, rfl, rfl, hend⟩ := h
  obtain ⟨rfl, rfl⟩ := matches_literally.mp hcrossover
  obtain ⟨c, hlast, hc⟩ := hword.getLast?_crossover (pre ++ gap ++ day)
  refine ⟨?_, (isBoundary_iff_right hlast hc).mp hend, ?_⟩
  · refine ⟨gap, day, by rw [List.append_nil], hgap, ?_⟩
    rcases hday with ⟨_, blanks, _, _, rfl, -, hletters, hblanks, -⟩ | ⟨rfl, -⟩
    · obtain ⟨rfl, -⟩ := matches_literally.mp hletters
      exact .inr ⟨blanks, rfl, hblanks⟩
    · exact .inl rfl
  · rcases hday with ⟨_, _, _, _, -, rfl, hletters, -, rfl⟩ | ⟨-, rfl⟩
    · obtain ⟨-, rfl⟩ := matches_literally.mp hletters
      rfl
    · rfl

/-- A match is a written shorthand, its numbers captured where they stand. -/
theorem shorthandAt_of_matches (hword : WordClass word)
    (h : (shorthandPattern word).Matches pre body post captures) :
    ∃ first between second after,
      ShorthandAt word (pre ++ body ++ post) pre first between second after ∧
      captures = [⟨1, pre.length, first⟩, ⟨2, (pre ++ (first ++ between)).length, second⟩] := by
  obtain ⟨_, _, _, _, rfl, rfl, ⟨rfl, rfl, hboundary⟩, first, _, _, _, rfl, rfl,
    ⟨_, rfl, hfirst⟩, gap, _, _, _, rfl, rfl, ⟨hgap, rfl⟩, _, _, _, _, rfl, rfl,
    ⟨⟨slash, rfl, hslash⟩, rfl⟩, gap', _, _, _, rfl, rfl, ⟨hgap', rfl⟩, second, ending, _, _, rfl,
    rfl, ⟨_, rfl, hsecond⟩, hcrossover⟩ := h
  obtain ⟨hdigits, rfl⟩ := matches_digits.mp hfirst
  obtain ⟨hdigits', rfl⟩ := matches_digits.mp hsecond
  obtain rfl := of_decide_eq_true hslash
  obtain ⟨⟨gap'', day, rfl, hgap'', hday⟩, hend, rfl⟩ := matches_crossover hword hcrossover
  refine ⟨first, gap ++ '/' :: gap', second, gap'' ++ (day ++ ("crossover".toList ++ post)),
    ⟨?_, ?_, hdigits, hdigits', ⟨gap, gap', rfl, hgap, hgap'⟩, gap'', day, post, rfl, hgap'', hday,
      hend⟩, ?_⟩
  · simp only [List.append_assoc, List.nil_append, List.cons_append]
  · obtain ⟨c, tail, heq, hc⟩ := hdigits.head_isDigit _
    simp only [List.append_assoc] at hboundary
    rw [heq] at hboundary
    exact (isBoundary_iff_left (hword.digit c hc)).mp hboundary
  · simp only [List.append_assoc, List.nil_append, List.cons_append, List.append_nil]

/-- A written shorthand is matched. -/
theorem ShorthandAt.matches {text first between second after : List Char}
    (hword : WordClass word) (h : ShorthandAt word text pre first between second after) :
    ∃ body post captures, pre ++ body ++ post = text ∧
      (shorthandPattern word).Matches pre body post captures := by
  obtain ⟨gap, gap', rfl, hgap, hgap'⟩ := h.slash
  obtain ⟨gap'', day, post, rfl, hgap'', hday, hend⟩ := h.crossover
  have hdayMatches (pre post : List Char) :
      (optional (.seq (literally "day") (.many isSpace))).Matches pre day post [] := by
    rcases hday with rfl | ⟨blanks, rfl, hblanks⟩
    · exact .inr ⟨rfl, rfl⟩
    · exact .inl ⟨_, blanks, [], [], rfl, rfl, matches_literally.mpr ⟨rfl, rfl⟩, hblanks, rfl⟩
  refine ⟨first ++ (gap ++ (['/'] ++ (gap' ++ (second ++ (gap'' ++
    (day ++ ("crossover".toList ++ []))))))), post, _, ?_, [], _, [], _, rfl, rfl,
    ⟨rfl, rfl, ?_⟩, first, _, _, _, rfl, rfl, ⟨[], rfl, matches_digits.mpr ⟨h.first, rfl⟩⟩,
    gap, _, [], _, rfl, rfl, ⟨hgap, rfl⟩, ['/'], _, [], _, rfl, rfl, ⟨⟨'/', rfl, rfl⟩, rfl⟩,
    gap', _, [], _, rfl, rfl, ⟨hgap', rfl⟩, second, _, _, _, rfl, rfl,
    ⟨[], rfl, matches_digits.mpr ⟨h.second, rfl⟩⟩, gap'', _, [], _, rfl, rfl, ⟨hgap'', rfl⟩,
    day, _, [], _, rfl, rfl, hdayMatches _ _, "crossover".toList, [], [], [], rfl, rfl,
    matches_literally.mpr ⟨rfl, rfl⟩, rfl, rfl, ?_⟩
  · rw [h.text_eq]
    simp only [List.append_assoc, List.nil_append, List.cons_append, List.append_nil]
  · obtain ⟨c, tail, heq, hc⟩ := h.first.head_isDigit _
    show isBoundary word pre ((first ++ _) ++ post) = true
    rw [List.append_assoc, heq]
    exact (isBoundary_iff_left (hword.digit c hc)).mpr h.boundary
  · obtain ⟨c, hlast, hc⟩ := hword.getLast?_crossover _
    exact (isBoundary_iff_right hlast hc).mpr hend

end Matched

-- ============================================================================
-- The hint
-- ============================================================================

/-- The shorthand for a bullish crossing. -/
def saysGoldenCross (lower : String → String) (text : String) : Prop :=
  "golden cross".toList <:+: (lower text).toList

/-- The shorthand for a bearish crossing. -/
def saysDeathCross (lower : String → String) (text : String) : Prop :=
  "death cross".toList <:+: (lower text).toList

instance (lower : String → String) (text : String) : Decidable (saysGoldenCross lower text) :=
  inferInstanceAs (Decidable (_ <:+: _))

instance (lower : String → String) (text : String) : Decidable (saysDeathCross lower text) :=
  inferInstanceAs (Decidable (_ <:+: _))

/-- The periods are those of a cross that is named. -/
def NamesCross (lower : String → String) (text : String) : Prop :=
  saysGoldenCross lower text ∨ saysDeathCross lower text

section Hint

variable {word : Char → Bool} {lower : String → String} {text : String}
  {pre first between second after : List Char}

/-- The shorthand that is found is the first one written. -/
theorem search_shorthand (hword : WordClass word) {chars : List Char} {m : Found}
    (h : (shorthandPattern word).search chars = some m) :
    ∃ pre first between second after, FirstShorthand word chars pre first between second after ∧
      m.captures =
        [⟨1, pre.length, first⟩, ⟨2, (pre ++ (first ++ between)).length, second⟩] := by
  have hvalid := search_matches h
  obtain ⟨first, between, second, after, hwritten, hcaptures⟩ :=
    shorthandAt_of_matches hword hvalid.matched
  rw [hvalid.text_eq] at hwritten
  refine ⟨m.pre, first, between, second, after, ⟨hwritten, ?_⟩, hcaptures⟩
  intro pre' first' between' second' after' hother
  obtain ⟨body, post, captures, htext, hmatched⟩ := hother.matches hword
  exact search_leftmost h htext hmatched

theorem FirstShorthand.search (hword : WordClass word) {chars : List Char}
    (h : FirstShorthand word chars pre first between second after) :
    ∃ m, (shorthandPattern word).search chars = some m ∧ m.captures =
      [⟨1, pre.length, first⟩, ⟨2, (pre ++ (first ++ between)).length, second⟩] := by
  obtain ⟨body, post, captures, htext, hmatched⟩ := h.written.matches hword
  cases hsearch : (shorthandPattern word).search chars with
  | none => exact absurd hmatched (search_eq_none hsearch htext)
  | some m =>
      obtain ⟨_, _, _, _, _, hfirst, hcaptures⟩ := search_shorthand hword hsearch
      obtain ⟨rfl, rfl, rfl, rfl, rfl⟩ := h.unique hfirst
      exact ⟨m, rfl, hcaptures⟩

theorem periodOf_eq_ok {m : Found} {capture : Capture} {index : Nat} {period : Int}
    (hcapture : m.group index = some capture) :
    periodOf m index = .ok period ↔ intOfText (.ofList capture.text) = some period := by
  unfold periodOf
  rw [hcapture]
  dsimp only
  cases intOfText (.ofList capture.text) with
  | none => simp only [reduceCtorEq]
  | some value => simp only [Except.ok.injEq, Option.some.injEq]

theorem findNormalizationHint_of_not_namesCross (hcross : ¬ NamesCross lower text) :
    findNormalizationHint word lower text =
      match (shorthandPattern word).search (lower text).toList with
      | none => .ok none
      | some shorthand => do
          let shortPeriod ← periodOf shorthand 1
          let longPeriod ← periodOf shorthand 2
          return some ⟨"crossover shorthand", shortPeriod, longPeriod, true⟩ := by
  obtain ⟨hgolden, hdeath⟩ := not_or.mp hcross
  exact (if_neg hgolden).trans (if_neg hdeath)

/-- The hint of a shorthand: its numbers, in the order they are written. -/
theorem findNormalizationHint_shorthand (hword : WordClass word) (hcross : ¬ NamesCross lower text)
    (h : FirstShorthand word (lower text).toList pre first between second after)
    {hint : NormalizationHint} :
    findNormalizationHint word lower text = .ok (some hint) ↔
      ∃ shortPeriod longPeriod, intOfText (.ofList first) = some shortPeriod ∧
        intOfText (.ofList second) = some longPeriod ∧
        hint = ⟨"crossover shorthand", shortPeriod, longPeriod, true⟩ := by
  obtain ⟨m, hsearch, hcaptures⟩ := h.search hword
  have hgroup₁ : m.group 1 = some ⟨1, pre.length, first⟩ := by
    unfold Found.group
    rw [hcaptures]
    rfl
  have hgroup₂ : m.group 2 = some ⟨2, (pre ++ (first ++ between)).length, second⟩ := by
    unfold Found.group
    rw [hcaptures]
    rfl
  rw [findNormalizationHint_of_not_namesCross hcross, hsearch]
  constructor
  · intro hhint
    obtain ⟨shortPeriod, hshort, hhint⟩ := Python.bind_eq_ok hhint
    obtain ⟨longPeriod, hlong, hhint⟩ := Python.bind_eq_ok hhint
    obtain rfl := Option.some.inj (Except.ok.inj hhint)
    exact ⟨shortPeriod, longPeriod, (periodOf_eq_ok hgroup₁).mp hshort,
      (periodOf_eq_ok hgroup₂).mp hlong, rfl⟩
  · rintro ⟨shortPeriod, longPeriod, hshort, hlong, rfl⟩
    dsimp only
    rw [(periodOf_eq_ok hgroup₁).mpr hshort, (periodOf_eq_ok hgroup₂).mpr hlong]
    rfl

/-- A hint without a named cross is that of a shorthand. -/
theorem firstShorthand_of_hint (hword : WordClass word) (hcross : ¬ NamesCross lower text)
    {hint : NormalizationHint} (h : findNormalizationHint word lower text = .ok (some hint)) :
    ∃ pre first between second after,
      FirstShorthand word (lower text).toList pre first between second after := by
  rw [findNormalizationHint_of_not_namesCross hcross] at h
  cases hsearch : (shorthandPattern word).search (lower text).toList with
  | none =>
      rw [hsearch] at h
      cases h
  | some m =>
      obtain ⟨pre, first, between, second, after, hfirst, -⟩ := search_shorthand hword hsearch
      exact ⟨pre, first, between, second, after, hfirst⟩

/-- A named cross has the periods 50 and 200. -/
theorem findNormalizationHint_cross (word : Char → Bool) (hcross : NamesCross lower text) :
    ∃ name, findNormalizationHint word lower text =
      .ok (some ⟨name, 50, 200, decide (saysGoldenCross lower text)⟩) := by
  by_cases hgolden : saysGoldenCross lower text
  · rw [decide_eq_true hgolden]
    exact ⟨"golden cross", if_pos hgolden⟩
  · rw [decide_eq_false hgolden]
    exact ⟨"death cross", (if_neg hgolden).trans (if_pos (hcross.resolve_left hgolden))⟩

end Hint

-- ============================================================================
-- The rules
-- ============================================================================

/-- `StrategyParseDraft()` -/
def emptyDraft : StrategyParseDraft := ⟨none, none, none, none, none, none, none⟩

/-- Two simple averages of the close, compared. -/
def smaRule (left : Int) (operator : Operator) (right : Int) : Condition :=
  ⟨.indicator .sma "close" left, operator, .indicator .sma "close" right⟩

/-- A text that names both crosses is read as a golden cross. -/
def entryOperator (lower : String → String) (text : String) : Operator :=
  if saysDeathCross lower text ∧ ¬ saysGoldenCross lower text then .crossesBelow else .crossesAbove

/-- The crossing opposite to the one the text says. -/
def oppositeOperator (lower : String → String) (text : String) : Operator :=
  if saysDeathCross lower text ∧ ¬ saysGoldenCross lower text then .crossesAbove else .crossesBelow

section Rules

variable {word : Char → Bool} {lower : String → String} {text : String} {rendering : Rendering}

theorem normalizeCondition_crossoverDraft {shortPeriod longPeriod : Int} {operator : Operator}
    {fieldName : String} {recorded after : Recorded} {condition : Condition}
    (h : normalizeCondition (crossoverDraft shortPeriod longPeriod operator) fieldName recorded =
      .ok (condition, after)) : condition = smaRule shortPeriod operator longPeriod :=
  (congrArg Prod.fst (Except.ok.inj h)).symm

/-- The inferred rules are those of the hint. -/
theorem normalizeStrategyDraft_hint {result : ParsedStrategyResult}
    (h : normalizeStrategyDraft rendering (textRecognition word lower) emptyDraft text =
      .ok result) :
    ∃ hint, findNormalizationHint word lower text = .ok (some hint) ∧
      result.specification.entry = smaRule hint.shortPeriod
        (if hint.bullishEntry then .crossesAbove else .crossesBelow) hint.longPeriod ∧
      result.specification.exit = smaRule hint.shortPeriod
        (if hint.bullishEntry then .crossesBelow else .crossesAbove) hint.longPeriod := by
  obtain ⟨⟨entryDraft, exitDraft, afterRules⟩, hrules, h⟩ := Python.bind_eq_ok h
  obtain ⟨riskControls, -, h⟩ := Python.bind_eq_ok h
  obtain ⟨⟨entry, afterEntry⟩, hentry, h⟩ := Python.bind_eq_ok h
  obtain ⟨⟨exit, afterExit⟩, hexit, h⟩ := Python.bind_eq_ok h
  obtain ⟨⟨⟩, -, h⟩ := Python.bind_eq_ok h
  obtain rfl := Except.ok.inj h
  obtain ⟨found, hfound, hrules⟩ := Python.bind_eq_ok hrules
  cases found with
  | none => cases hrules
  | some hint =>
      refine ⟨hint, hfound, ?_⟩
      obtain ⟨rfl, hrest⟩ := Prod.mk.inj (Except.ok.inj hrules)
      obtain ⟨rfl, rfl⟩ := Prod.mk.inj hrest
      cases hbullish : hint.bullishEntry with
      | true =>
          rw [hbullish] at hentry hexit
          exact ⟨normalizeCondition_crossoverDraft hentry, normalizeCondition_crossoverDraft hexit⟩
      | false =>
          rw [hbullish] at hentry hexit
          exact ⟨normalizeCondition_crossoverDraft hentry, normalizeCondition_crossoverDraft hexit⟩

/-- The entry of a hint rises, unless the hint is of a death cross. -/
theorem bullishEntry_of_hint (hword : WordClass word) {hint : NormalizationHint}
    (h : findNormalizationHint word lower text = .ok (some hint)) :
    (if hint.bullishEntry then Operator.crossesAbove else .crossesBelow) =
        entryOperator lower text ∧
      (if hint.bullishEntry then Operator.crossesBelow else .crossesAbove) =
        oppositeOperator lower text := by
  by_cases hcross : NamesCross lower text
  · obtain ⟨name, heq⟩ := findNormalizationHint_cross word hcross
    obtain rfl := Option.some.inj (Except.ok.inj (h.symm.trans heq))
    unfold entryOperator oppositeOperator
    dsimp only
    by_cases hgolden : saysGoldenCross lower text
    · have hnot : ¬ (saysDeathCross lower text ∧ ¬ saysGoldenCross lower text) :=
        fun hdeath => hdeath.2 hgolden
      rw [decide_eq_true hgolden, if_neg hnot, if_neg hnot]
      exact ⟨rfl, rfl⟩
    · have hdeath : saysDeathCross lower text ∧ ¬ saysGoldenCross lower text :=
        ⟨hcross.resolve_left hgolden, hgolden⟩
      rw [decide_eq_false hgolden, if_pos hdeath, if_pos hdeath]
      exact ⟨rfl, rfl⟩
  · obtain ⟨_, _, _, _, _, hfirst⟩ := firstShorthand_of_hint hword hcross h
    obtain ⟨shortPeriod, longPeriod, -, -, rfl⟩ :=
      (findNormalizationHint_shorthand hword hcross hfirst).mp h
    have hnot : ¬ (saysDeathCross lower text ∧ ¬ saysGoldenCross lower text) :=
      fun hdeath => hcross (.inr hdeath.1)
    unfold entryOperator oppositeOperator
    rw [if_neg hnot, if_neg hnot]
    exact ⟨rfl, rfl⟩

end Rules

-- ============================================================================
-- Orientation
-- ============================================================================

/-- The periods of a hint ascend, and the rules that are inferred from it compare the faster
    average with the slower one. -/
structure KeepsOrientation (word : Char → Bool) (lower : String → String)
    (rendering : Rendering) (text : String) : Prop where
  hint : ∀ hint, findNormalizationHint word lower text = .ok (some hint) →
    hint.shortPeriod < hint.longPeriod
  rules : ∀ result, normalizeStrategyDraft rendering (textRecognition word lower) emptyDraft text =
    .ok result → ∃ faster slower, faster < slower ∧
      result.specification.entry = smaRule faster (entryOperator lower text) slower ∧
      result.specification.exit = smaRule faster (oppositeOperator lower text) slower

/-- A cross is named, or the first shorthand has its smaller number first. -/
def PeriodsAscend (word : Char → Bool) (lower : String → String) (text : String) : Prop :=
  NamesCross lower text ∨ ∀ pre first between second after,
    FirstShorthand word (lower text).toList pre first between second after →
      ∀ a b, intOfText (.ofList first) = some a → intOfText (.ofList second) = some b → a < b

section Orientation

variable {word : Char → Bool} {lower : String → String} {text : String} {rendering : Rendering}

theorem hint_ascends_iff (hword : WordClass word) :
    (∀ hint, findNormalizationHint word lower text = .ok (some hint) →
      hint.shortPeriod < hint.longPeriod) ↔ PeriodsAscend word lower text := by
  constructor
  · intro hhint
    refine or_iff_not_imp_left.mpr fun hcross => ?_
    intro pre first between second after hfirst a b ha hb
    exact hhint _ ((findNormalizationHint_shorthand hword hcross hfirst).mpr ⟨a, b, ha, hb, rfl⟩)
  · intro hascend hint hhint
    by_cases hcross : NamesCross lower text
    · obtain ⟨name, heq⟩ := findNormalizationHint_cross word hcross
      obtain rfl := Option.some.inj (Except.ok.inj (hhint.symm.trans heq))
      show (50 : Int) < 200
      decide
    · obtain ⟨_, _, _, _, _, hfirst⟩ := firstShorthand_of_hint hword hcross hhint
      obtain ⟨a, b, ha, hb, rfl⟩ := (findNormalizationHint_shorthand hword hcross hfirst).mp hhint
      exact hascend.resolve_left hcross _ _ _ _ _ hfirst a b ha hb

theorem keepsOrientation_iff_hint (hword : WordClass word) :
    KeepsOrientation word lower rendering text ↔
      ∀ hint, findNormalizationHint word lower text = .ok (some hint) →
        hint.shortPeriod < hint.longPeriod := by
  refine ⟨KeepsOrientation.hint, fun hhint => ⟨hhint, fun result hresult => ?_⟩⟩
  obtain ⟨hint, hfound, hentry, hexit⟩ := normalizeStrategyDraft_hint hresult
  obtain ⟨hentryOperator, hexitOperator⟩ := bullishEntry_of_hint hword hfound
  rw [hentryOperator] at hentry
  rw [hexitOperator] at hexit
  exact ⟨hint.shortPeriod, hint.longPeriod, hhint hint hfound, hentry, hexit⟩

end Orientation

-- ============================================================================
-- The numbers exchanged
-- ============================================================================

section Exchange

variable {word : Char → Bool} {text pre first between second after : List Char}

theorem isDigit_of_mem_between (h : ShorthandAt word text pre first between second after) :
    ∀ c ∈ between, isDigit c = false := by
  obtain ⟨gap, gap', rfl, hgap, hgap'⟩ := h.slash
  refine List.forall_mem_append.mpr ⟨fun c hc => isDigit_of_isSpace (hgap c hc), ?_⟩
  exact List.forall_mem_cons.mpr ⟨isDigit_letters.1, fun c hc => isDigit_of_isSpace (hgap' c hc)⟩

/-- What is after the two numbers of a shorthand, up to the end of its last word. -/
theorem ShorthandAt.crossover_split (h : ShorthandAt word text pre first between second after) :
    ∃ ending post, after = ending ++ post ∧ (∀ c ∈ ending, isDigit c = false) ∧
      (∀ c ∈ post.head?, word c = false) ∧
      ∀ post', (∀ c ∈ post'.head?, word c = false) →
        ∃ gap day post'', ending ++ post' = gap ++ (day ++ ("crossover".toList ++ post'')) ∧
          Blanks gap ∧ (day = [] ∨ ∃ gap', day = "day".toList ++ gap' ∧ Blanks gap') ∧
          ∀ c ∈ post''.head?, word c = false := by
  obtain ⟨gap, day, post, rfl, hgap, hday, hend⟩ := h.crossover
  have hletters (word : String) (hword : ∀ c ∈ word.toList, c.isLower = true) :
      ∀ c ∈ word.toList, isDigit c = false := fun c hc =>
    isDigit_eq_false (by have := isLower_iff.mp (hword c hc); omega)
  refine ⟨gap ++ (day ++ "crossover".toList), post, by simp only [List.append_assoc], ?_, hend,
    fun post' hpost' => ⟨gap, day, post', by simp only [List.append_assoc], hgap, hday, hpost'⟩⟩
  refine List.forall_mem_append.mpr ⟨fun c hc => isDigit_of_isSpace (hgap c hc), ?_⟩
  refine List.forall_mem_append.mpr ⟨?_, hletters "crossover" (by decide)⟩
  rcases hday with rfl | ⟨gap', rfl, hgap'⟩
  · exact nofun
  · exact List.forall_mem_append.mpr
      ⟨hletters "day" (by decide), fun c hc => isDigit_of_isSpace (hgap' c hc)⟩

/-- The blanks after the numbers are not followed by a slash. -/
theorem ShorthandAt.after_ne (h : ShorthandAt word text pre first between second after)
    {gap rest : List Char} (hgap : Blanks gap) : after ≠ gap ++ '/' :: rest := by
  obtain ⟨gap', day, post, rfl, hgap', hday, -⟩ := h.crossover
  intro heq
  rcases hday with rfl | ⟨gap'', rfl, -⟩
  · obtain ⟨-, hrest⟩ := append_class_inj hgap' hgap (head_cons (by decide) _)
      (head_cons (by decide) _) heq
    cases hrest
  · obtain ⟨-, hrest⟩ := append_class_inj hgap' hgap (head_cons (by decide) _)
      (head_cons (by decide) _) heq
    cases hrest

/-- No digit stands right before the first number. -/
theorem ShorthandAt.isDigit_before (hword : WordClass word)
    (h : ShorthandAt word text pre first between second after) {x : List Char} (hx : x ≠ [])
    (y : List Char) (hpre : pre = y ++ x) : ∀ c ∈ x.getLast?, isDigit c = false := by
  intro c hc
  rw [Bool.eq_false_iff]
  intro hdigit
  have hboundary := h.boundary c (by
    rw [hpre, List.getLast?_append_of_ne_nil _ hx]
    exact hc)
  rw [hword.digit c hdigit] at hboundary
  cases hboundary

/-- A shorthand that is written before another one ends before it, whatever its numbers are. -/
theorem ShorthandAt.earlier (hword : WordClass word)
    (h : ShorthandAt word text pre first between second after)
    {pre' first' between' second' after' : List Char}
    (h' : ShorthandAt word text pre' first' between' second' after')
    (hlength : pre'.length < pre.length) :
    ∃ after'', ShorthandAt word (pre ++ (second ++ (between ++ (first ++ after))))
      pre' first' between' second' after'' := by
  have htext := h'.text_eq.symm.trans h.text_eq
  obtain ⟨digit, rest, hrest, hdigit⟩ := h.first.head_isDigit (between ++ (second ++ after))
  rw [hrest] at htext
  -- everything of the earlier one is inside of what is before the later one
  obtain ⟨part, rfl, hpart⟩ : ∃ part, pre = pre' ++ part ∧
      first' ++ (between' ++ (second' ++ after')) = part ++ digit :: rest := by
    rcases List.append_eq_append_iff.mp htext with ⟨part, rfl, hpart⟩ | ⟨part, rfl, -⟩
    · exact ⟨part, rfl, hpart⟩
    · rw [List.length_append] at hlength
      omega
  have hne : part ≠ [] := by
    rintro rfl
    rw [List.append_nil] at hlength
    exact Nat.lt_irrefl _ hlength
  obtain ⟨x, hx, rfl, hfirst⟩ :=
    append_class_prefix h'.first.2 hne (h.isDigit_before hword hne pre' rfl) hpart
  have hnotMem {run : List Char} (hrun : ∀ c ∈ run, isDigit c = false) : digit ∉ run := by
    intro hmem
    rw [hrun digit hmem] at hdigit
    cases hdigit
  obtain ⟨y, rfl, hsecond⟩ :=
    append_notMem_prefix (hnotMem (isDigit_of_mem_between h')) hfirst
  obtain rfl | hy := eq_or_ne y []
  · -- its second number would be the first one of the later shorthand
    rw [List.nil_append, ← hrest] at hsecond
    obtain ⟨-, hafter⟩ := append_class_inj h'.second.2 h.first.2 h'.head_after
      (h.head_between _) hsecond
    obtain ⟨gap, gap', rfl, hgap, -⟩ := h.slash
    rw [List.append_assoc, List.cons_append] at hafter
    exact absurd hafter (h'.after_ne hgap)
  · have hpre : pre' ++ (first' ++ (between' ++ y)) = (pre' ++ (first' ++ between')) ++ y := by
      simp only [List.append_assoc]
    obtain ⟨z, hz, rfl, hafter⟩ := append_class_prefix h'.second.2 hy
      (h.isDigit_before hword hy _ hpre) hsecond
    obtain ⟨ending, post, rfl, hending, hpost, hbuild⟩ := h'.crossover_split
    obtain ⟨post', rfl, rfl⟩ := append_notMem_prefix (hnotMem hending) hafter
    have hpost' : post' ≠ [] := by
      rintro rfl
      have hword' := hpost digit rfl
      rw [hword.digit digit hdigit] at hword'
      cases hword'
    obtain ⟨c, tail, rfl⟩ := List.exists_cons_of_ne_nil hpost'
    refine ⟨ending ++ ((c :: tail) ++ (second ++ (between ++ (first ++ after)))), ?_, h'.boundary,
      h'.first, h'.second, h'.slash, hbuild _ fun d hd => hpost d hd⟩
    simp only [List.append_assoc]

/-- With the two numbers of the first shorthand exchanged, it is still the first one. -/
theorem FirstShorthand.exchange (hword : WordClass word)
    (h : FirstShorthand word text pre first between second after) :
    FirstShorthand word (pre ++ (second ++ (between ++ (first ++ after)))) pre second between
      first after := by
  refine ⟨h.written.exchange, fun pre' first' between' second' after' hother => ?_⟩
  by_contra hlength
  obtain ⟨after'', hearlier⟩ :=
    h.written.exchange.earlier hword hother (Nat.lt_of_not_le hlength)
  rw [← h.written.text_eq] at hearlier
  exact hlength (h.leftmost _ _ _ _ _ hearlier)

end Exchange

/-- The numbers of the first shorthand are exchanged. -/
structure Exchanged (word : Char → Bool) (lower : String → String) (text exchanged : String)
    (pre first between second after : List Char) : Prop where
  written : FirstShorthand word (lower text).toList pre first between second after
  exchanged_eq : (lower exchanged).toList = pre ++ (second ++ (between ++ (first ++ after)))

section ExchangedRules

variable {word : Char → Bool} {lower : String → String} {text exchanged : String}
  {rendering : Rendering} {pre first between second after : List Char}

/-- A phrase without digits is in both texts or in neither. -/
theorem Exchanged.infix_iff (h : Exchanged word lower text exchanged pre first between second after)
    {phrase : String} (hphrase : ∀ c ∈ phrase.toList, isDigit c = false) :
    phrase.toList <:+: (lower exchanged).toList ↔ phrase.toList <:+: (lower text).toList := by
  have hrun {digits : List Char} (hdigits : Digits digits) : ∀ c ∈ digits, c ∉ phrase.toList := by
    intro c hc hmem
    have hdigit := hdigits.2 c hc
    rw [hphrase c hmem] at hdigit
    cases hdigit
  have hfirst := h.written.written.first
  have hsecond := h.written.written.second
  rw [h.exchanged_eq, h.written.written.text_eq, infix_append_run hsecond.1 (hrun hsecond),
    infix_append_run hfirst.1 (hrun hfirst), infix_append_run hfirst.1 (hrun hfirst),
    infix_append_run hsecond.1 (hrun hsecond)]

theorem isDigit_crosses : (∀ c ∈ "golden cross".toList, isDigit c = false) ∧
    ∀ c ∈ "death cross".toList, isDigit c = false := by
  have hlarge (c : Char) (h : c = ' ' ∨ c.isLower = true) : isDigit c = false := by
    refine isDigit_eq_false ?_
    rcases h with rfl | hlower
    · decide
    · have := isLower_iff.mp hlower
      omega
  exact ⟨fun c hc => hlarge c (by revert c; decide), fun c hc => hlarge c (by revert c; decide)⟩

theorem Exchanged.saysGoldenCross_iff
    (h : Exchanged word lower text exchanged pre first between second after) :
    saysGoldenCross lower exchanged ↔ saysGoldenCross lower text :=
  h.infix_iff isDigit_crosses.1

theorem Exchanged.namesCross_iff
    (h : Exchanged word lower text exchanged pre first between second after) :
    NamesCross lower exchanged ↔ NamesCross lower text :=
  or_congr h.saysGoldenCross_iff (h.infix_iff isDigit_crosses.2)

theorem Exchanged.firstShorthand (hword : WordClass word)
    (h : Exchanged word lower text exchanged pre first between second after) :
    FirstShorthand word (lower exchanged).toList pre second between first after := by
  rw [h.exchanged_eq]
  exact h.written.exchange hword

theorem smaRule_inj {a b p q : Int} {operator operator' : Operator}
    (h : smaRule a operator b = smaRule p operator' q) : a = p := by
  cases h
  rfl

/-- The rules of the two texts are the same if and only if the order does not matter. -/
theorem Exchanged.sameRules_iff (hword : WordClass word)
    (h : Exchanged word lower text exchanged pre first between second after)
    {result result' : ParsedStrategyResult}
    (hresult : normalizeStrategyDraft rendering (textRecognition word lower) emptyDraft text =
      .ok result)
    (hresult' : normalizeStrategyDraft rendering (textRecognition word lower) emptyDraft
      exchanged = .ok result') :
    (result.specification.entry = result'.specification.entry ∧
      result.specification.exit = result'.specification.exit) ↔
      NamesCross lower text ∨ intOfText (.ofList first) = intOfText (.ofList second) := by
  obtain ⟨hint, hfound, hentry, hexit⟩ := normalizeStrategyDraft_hint hresult
  obtain ⟨hint', hfound', hentry', hexit'⟩ := normalizeStrategyDraft_hint hresult'
  rw [hentry, hentry', hexit, hexit']
  by_cases hcross : NamesCross lower text
  · obtain ⟨name, heq⟩ := findNormalizationHint_cross word hcross
    obtain ⟨name', heq'⟩ :=
      findNormalizationHint_cross word (h.namesCross_iff.mpr hcross)
    obtain rfl := Option.some.inj (Except.ok.inj (hfound.symm.trans heq))
    obtain rfl := Option.some.inj (Except.ok.inj (hfound'.symm.trans heq'))
    rw [decide_eq_decide.mpr h.saysGoldenCross_iff]
    exact ⟨fun _ => .inl hcross, fun _ => ⟨rfl, rfl⟩⟩
  · obtain ⟨a, b, ha, hb, rfl⟩ :=
      (findNormalizationHint_shorthand hword hcross h.written).mp hfound
    obtain ⟨b', a', hb', ha', rfl⟩ := (findNormalizationHint_shorthand hword
      (mt h.namesCross_iff.mp hcross) (h.firstShorthand hword)).mp hfound'
    obtain rfl := Option.some.inj (ha.symm.trans ha')
    obtain rfl := Option.some.inj (hb.symm.trans hb')
    rw [ha, hb, Option.some.injEq, or_iff_right hcross]
    constructor
    · rintro ⟨hsame, -⟩
      exact smaRule_inj hsame
    · rintro rfl
      exact ⟨rfl, rfl⟩

/-- The rules of a shorthand are oriented if and only if its numbers ascend (or a cross is
    named); the two orders of its numbers have the same rules only if the numbers are equal. -/
theorem shorthand_keepsOrientation_iff (hword : WordClass word) (text : String) :
    (KeepsOrientation word lower rendering text ↔ PeriodsAscend word lower text) ∧
      ∀ exchanged pre first between second after,
        Exchanged word lower text exchanged pre first between second after →
        ∀ result result' : ParsedStrategyResult,
          normalizeStrategyDraft rendering (textRecognition word lower) emptyDraft text =
            .ok result →
          normalizeStrategyDraft rendering (textRecognition word lower) emptyDraft exchanged =
            .ok result' →
          ((result.specification.entry = result'.specification.entry ∧
            result.specification.exit = result'.specification.exit) ↔
            NamesCross lower text ∨ intOfText (.ofList first) = intOfText (.ofList second)) :=
  ⟨(keepsOrientation_iff_hint hword).trans (hint_ascends_iff hword),
    fun _ _ _ _ _ _ h _ _ hresult hresult' => h.sameRules_iff hword hresult hresult'⟩

end ExchangedRules

-- ============================================================================
-- Written in either order
-- ============================================================================

/-- The slower average is compared with the faster one. -/
theorem shorthand_keepsOrientation_descending : ∃ result : ParsedStrategyResult,
    normalizeStrategyDraft plainRendering (textRecognition plainWord String.toLower) emptyDraft
      "Run a 200/50 crossover." = .ok result ∧
    result.specification.entry = smaRule 200 .crossesAbove 50 ∧
    ¬ KeepsOrientation plainWord String.toLower plainRendering "Run a 200/50 crossover." := by
  obtain ⟨result, hresult, hentry⟩ : ∃ result : ParsedStrategyResult,
      normalizeStrategyDraft plainRendering (textRecognition plainWord String.toLower) emptyDraft
        "Run a 200/50 crossover." = .ok result ∧
      result.specification.entry = smaRule 200 .crossesAbove 50 :=
    Python.exists_ok_of_any (by decide +kernel)
  refine ⟨result, hresult, hentry, fun h => ?_⟩
  obtain ⟨faster, slower, hlt, hrule, -⟩ := h.rules result hresult
  rw [hentry] at hrule
  obtain ⟨rfl, -, rfl⟩ : 200 = faster ∧ Operator.crossesAbove = _ ∧ 50 = slower := by
    simpa [smaRule] using hrule
  exact absurd hlt (by decide)

theorem firstShorthand_nil {word : Char → Bool} {text first between second after : List Char}
    (h : ShorthandAt word text [] first between second after) :
    FirstShorthand word text [] first between second after :=
  ⟨h, fun _ _ _ _ _ _ => Nat.zero_le _⟩

/-- `50/200 crossover` is oriented, and `200/50 crossover` is another strategy. -/
theorem shorthand_keepsOrientation_iff_ascending :
    KeepsOrientation plainWord String.toLower plainRendering "50/200 crossover" ∧
    ∃ result result' : ParsedStrategyResult,
      normalizeStrategyDraft plainRendering (textRecognition plainWord String.toLower) emptyDraft
        "50/200 crossover" = .ok result ∧
      normalizeStrategyDraft plainRendering (textRecognition plainWord String.toLower) emptyDraft
        "200/50 crossover" = .ok result' ∧
      ¬ (result.specification.entry = result'.specification.entry ∧
        result.specification.exit = result'.specification.exit) := by
  have hwritten : FirstShorthand plainWord (String.toLower "50/200 crossover").toList []
      "50".toList "/".toList "200".toList " crossover".toList :=
    firstShorthand_nil ⟨by decide +kernel, nofun, ⟨by decide, by decide⟩, ⟨by decide, by decide⟩,
      ⟨[], [], by decide, nofun, nofun⟩, " ".toList, [], [], by decide,
      by unfold Blanks; decide, .inl rfl, nofun⟩
  have hexchanged : Exchanged plainWord String.toLower "50/200 crossover" "200/50 crossover" []
      "50".toList "/".toList "200".toList " crossover".toList :=
    ⟨hwritten, by decide +kernel⟩
  have hiff : (KeepsOrientation plainWord String.toLower plainRendering "50/200 crossover" ↔
      PeriodsAscend plainWord String.toLower "50/200 crossover") ∧ _ :=
    shorthand_keepsOrientation_iff plainWord_wordClass "50/200 crossover"
  have hcross : ¬ NamesCross String.toLower "50/200 crossover" := by
    unfold NamesCross
    decide +kernel
  obtain ⟨result, hresult, -⟩ : ∃ result : ParsedStrategyResult,
      normalizeStrategyDraft plainRendering (textRecognition plainWord String.toLower) emptyDraft
        "50/200 crossover" = .ok result ∧ True :=
    Python.exists_ok_of_any (by decide +kernel)
  obtain ⟨result', hresult', -⟩ : ∃ result : ParsedStrategyResult,
      normalizeStrategyDraft plainRendering (textRecognition plainWord String.toLower) emptyDraft
        "200/50 crossover" = .ok result ∧ True :=
    Python.exists_ok_of_any (by decide +kernel)
  refine ⟨hiff.1.mpr (.inr ?_), result, result', hresult, hresult', ?_⟩
  · intro pre first between second after hfirst a b ha hb
    obtain ⟨-, rfl, -, rfl, -⟩ := hwritten.unique hfirst
    have ha' : intOfText (.ofList "50".toList) = some 50 := by decide +kernel
    have hb' : intOfText (.ofList "200".toList) = some 200 := by decide +kernel
    obtain rfl := Option.some.inj (ha.symm.trans ha')
    obtain rfl := Option.some.inj (hb.symm.trans hb')
    decide
  · rw [hiff.2 _ _ _ _ _ _ hexchanged result result' hresult hresult', or_iff_right hcross]
    decide +kernel

end Services
end TradingPlatform
