/-
  TradingPlatform.Lib.Regex

  Regular expressions with captures, as a backtracking matcher runs them.

  - `Pattern.results` lists the ways to match at a place of a text, the preferred
    one first; `Pattern.Matches` says the same without an order (`mem_results`).
  - `Pattern.finditer` goes through a text and takes the preferred match at each
    place that no earlier match covers.  What it finds are matches
    (`finditer_matches`) that do not overlap (`finditer_disjoint`), and every
    place where something matches starts or is inside of one of them
    (`finditer_covers`).
  - `Pattern.search` is the leftmost match.
-/

import Mathlib.Data.List.Basic

namespace Regex

/-- The text of a group, and where it starts. -/
structure Capture where
  group : Nat
  start : Nat
  text : List Char
deriving DecidableEq, Repr

/-- A regular expression of the kind the patterns use. -/
inductive Pattern where
  | empty
  /-- One character of a class. -/
  | set (p : Char → Bool)
  /-- As many characters of a class as possible, or fewer. -/
  | many (p : Char → Bool)
  /-- A place between a word character and another one, or an end of the text. -/
  | boundary (word : Char → Bool)
  | seq (first second : Pattern)
  | alt (first second : Pattern)
  | group (index : Nat) (inner : Pattern)

/-- What was consumed, what is left, and the captures on the way. -/
structure Result where
  body : List Char
  post : List Char
  captures : List Capture
deriving DecidableEq, Repr

/-- The runs of a class that a text begins with, the longest first. -/
def runs (p : Char → Bool) : List Char → List (List Char × List Char)
  | [] => [([], [])]
  | c :: rest =>
      if p c then (runs p rest).map (fun run => (c :: run.1, run.2)) ++ [([], c :: rest)]
      else [([], c :: rest)]

/-- A place between a word character and another one, or an end of the text. -/
def isBoundary (word : Char → Bool) (pre post : List Char) : Bool :=
  pre.getLast?.any word != post.head?.any word

namespace Pattern

/-- `r?` -/
def optional (r : Pattern) : Pattern := .alt r .empty

/-- `p+` -/
def several (p : Char → Bool) : Pattern := .seq (.set p) (.many p)

/-- One character of each class, in this order. -/
def chars : List (Char → Bool) → Pattern
  | [] => .empty
  | p :: rest => .seq (.set p) (chars rest)

/-- The ways to match what is left of a text, of which `pre` has been read. -/
def results : Pattern → List Char → List Char → List Result
  | .empty, _, after => [⟨[], after, []⟩]
  | .set p, _, after =>
      match after with
      | [] => []
      | c :: rest => if p c then [⟨[c], rest, []⟩] else []
  | .many p, _, after => (runs p after).map fun run => ⟨run.1, run.2, []⟩
  | .boundary word, pre, after => if isBoundary word pre after then [⟨[], after, []⟩] else []
  | .seq first second, pre, after =>
      (first.results pre after).flatMap fun x =>
        (second.results (pre ++ x.body) x.post).map fun y =>
          ⟨x.body ++ y.body, y.post, x.captures ++ y.captures⟩
  | .alt first second, pre, after => first.results pre after ++ second.results pre after
  | .group index inner, pre, after =>
      (inner.results pre after).map fun x =>
        { x with captures := ⟨index, pre.length, x.body⟩ :: x.captures }

/-- `body` can be matched between `pre` and `post`, with these captures. -/
def Matches : Pattern → List Char → List Char → List Char → List Capture → Prop
  | .empty, _, body, _, captures => body = [] ∧ captures = []
  | .set p, _, body, _, captures => (∃ c, body = [c] ∧ p c = true) ∧ captures = []
  | .many p, _, body, _, captures => (∀ c ∈ body, p c = true) ∧ captures = []
  | .boundary word, pre, body, post, captures =>
      body = [] ∧ captures = [] ∧ isBoundary word pre post = true
  | .seq first second, pre, body, post, captures =>
      ∃ body₁ body₂ captures₁ captures₂, body = body₁ ++ body₂ ∧
        captures = captures₁ ++ captures₂ ∧
        first.Matches pre body₁ (body₂ ++ post) captures₁ ∧
        second.Matches (pre ++ body₁) body₂ post captures₂
  | .alt first second, pre, body, post, captures =>
      first.Matches pre body post captures ∨ second.Matches pre body post captures
  | .group index inner, pre, body, post, captures =>
      ∃ inside, captures = ⟨index, pre.length, body⟩ :: inside ∧
        inner.Matches pre body post inside

end Pattern

-- ============================================================================
-- The results are the matches
-- ============================================================================

theorem mem_runs {p : Char → Bool} {after run post : List Char} :
    (run, post) ∈ runs p after ↔ after = run ++ post ∧ ∀ c ∈ run, p c = true := by
  induction after generalizing run with
  | nil =>
      rw [runs, List.mem_singleton, Prod.mk.injEq]
      constructor
      · rintro ⟨rfl, rfl⟩
        exact ⟨rfl, nofun⟩
      · rintro ⟨hsplit, -⟩
        exact List.append_eq_nil_iff.mp hsplit.symm
  | cons c rest ih =>
      have hempty : (run, post) = ([], c :: rest) → c :: rest = run ++ post ∧
          ∀ d ∈ run, p d = true := by
        rintro ⟨rfl, rfl⟩
        exact ⟨rfl, nofun⟩
      unfold runs
      split
      · rename_i hc
        rw [List.mem_append, List.mem_map, List.mem_singleton]
        constructor
        · rintro (⟨⟨shorter, left⟩, hmem, heq⟩ | heq)
          · obtain ⟨rfl, rfl⟩ := Prod.mk.inj heq
            obtain ⟨rfl, hrun⟩ := ih.mp hmem
            exact ⟨rfl, List.forall_mem_cons.mpr ⟨hc, hrun⟩⟩
          · exact hempty heq
        · rintro ⟨hsplit, hrun⟩
          cases run with
          | nil => exact .inr (by rw [hsplit, List.nil_append])
          | cons d shorter =>
              obtain ⟨rfl, hrest⟩ := List.cons.inj hsplit
              exact .inl ⟨(shorter, post), ih.mpr ⟨hrest, (List.forall_mem_cons.mp hrun).2⟩, rfl⟩
      · rename_i hc
        rw [List.mem_singleton]
        refine ⟨hempty, ?_⟩
        rintro ⟨hsplit, hrun⟩
        cases run with
        | nil => rw [hsplit, List.nil_append]
        | cons d shorter =>
            obtain ⟨rfl, -⟩ := List.cons.inj hsplit
            exact absurd ((List.forall_mem_cons.mp hrun).1) hc

theorem isBoundary_iff_left {word : Char → Bool} {pre post : List Char} {c : Char}
    (hc : word c = true) :
    isBoundary word pre (c :: post) = true ↔ ∀ d ∈ pre.getLast?, word d = false := by
  rw [isBoundary, List.head?_cons, Option.any_some, hc, bne_iff_ne, ne_eq, Bool.not_eq_true,
    Option.any_eq_false]
  simp

theorem isBoundary_iff_right {word : Char → Bool} {pre post : List Char} {c : Char}
    (hlast : pre.getLast? = some c) (hc : word c = true) :
    isBoundary word pre post = true ↔ ∀ d ∈ post.head?, word d = false := by
  rw [isBoundary, hlast, Option.any_some, hc, bne_iff_ne, ne_comm, ne_eq, Bool.not_eq_true,
    Option.any_eq_false]
  simp

namespace Pattern

theorem mem_results {r : Pattern} {pre after body post : List Char} {captures : List Capture} :
    ⟨body, post, captures⟩ ∈ r.results pre after ↔
      after = body ++ post ∧ r.Matches pre body post captures := by
  induction r generalizing pre after body post captures with
  | empty =>
      simp only [results, Matches, List.mem_singleton, Result.mk.injEq]
      constructor
      · rintro ⟨rfl, rfl, rfl⟩
        exact ⟨rfl, rfl, rfl⟩
      · rintro ⟨rfl, rfl, rfl⟩
        exact ⟨rfl, rfl, rfl⟩
  | set p =>
      cases after with
      | nil =>
          simp only [results, Matches, List.not_mem_nil, false_iff]
          rintro ⟨h, ⟨c, rfl, -⟩, -⟩
          cases h
      | cons c rest =>
          simp only [results, Matches]
          constructor
          · intro h
            split at h
            · rename_i hc
              obtain ⟨rfl, rfl, rfl⟩ := Result.mk.inj (List.mem_singleton.mp h)
              exact ⟨rfl, ⟨c, rfl, hc⟩, rfl⟩
            · cases h
          · rintro ⟨hsplit, ⟨d, rfl, hd⟩, rfl⟩
            obtain ⟨rfl, rfl⟩ := List.cons.inj hsplit
            rw [if_pos hd]
            exact List.mem_singleton_self _
  | many p =>
      simp only [results, Matches, List.mem_map]
      constructor
      · rintro ⟨⟨run, left⟩, hmem, heq⟩
        obtain ⟨rfl, rfl, rfl⟩ := Result.mk.inj heq
        obtain ⟨hsplit, hrun⟩ := mem_runs.mp hmem
        exact ⟨hsplit, hrun, rfl⟩
      · rintro ⟨hsplit, hrun, rfl⟩
        exact ⟨(body, post), mem_runs.mpr ⟨hsplit, hrun⟩, rfl⟩
  | boundary word =>
      simp only [results, Matches]
      constructor
      · intro h
        split at h
        · rename_i hboundary
          obtain ⟨rfl, rfl, rfl⟩ := Result.mk.inj (List.mem_singleton.mp h)
          exact ⟨rfl, rfl, rfl, hboundary⟩
        · cases h
      · rintro ⟨rfl, rfl, rfl, hboundary⟩
        rw [List.nil_append, if_pos hboundary]
        exact List.mem_singleton_self _
  | seq first second ihFirst ihSecond =>
      simp only [results, Matches, List.mem_flatMap, List.mem_map]
      constructor
      · rintro ⟨⟨body₁, left, captures₁⟩, hmem₁, ⟨body₂, post₂, captures₂⟩, hmem₂, heq⟩
        obtain ⟨rfl, rfl, rfl⟩ := Result.mk.inj heq
        obtain ⟨rfl, hsecond⟩ := ihSecond.mp hmem₂
        obtain ⟨rfl, hfirst⟩ := ihFirst.mp hmem₁
        exact ⟨(List.append_assoc ..).symm, body₁, body₂, captures₁, captures₂, rfl, rfl, hfirst,
          hsecond⟩
      · rintro ⟨rfl, body₁, body₂, captures₁, captures₂, rfl, rfl, hfirst, hsecond⟩
        exact ⟨⟨body₁, body₂ ++ post, captures₁⟩, ihFirst.mpr ⟨List.append_assoc .., hfirst⟩,
          ⟨body₂, post, captures₂⟩, ihSecond.mpr ⟨rfl, hsecond⟩, rfl⟩
  | alt first second ihFirst ihSecond =>
      simp only [results, Matches, List.mem_append, ihFirst, ihSecond, and_or_left]
  | group index inner ih =>
      simp only [results, Matches, List.mem_map]
      constructor
      · rintro ⟨⟨inside, left, captures₁⟩, hinner, heq⟩
        obtain ⟨rfl, rfl, rfl⟩ := Result.mk.inj heq
        obtain ⟨hsplit, hinner⟩ := ih.mp hinner
        exact ⟨hsplit, captures₁, rfl, hinner⟩
      · rintro ⟨hsplit, inside, rfl, hinner⟩
        exact ⟨⟨body, post, inside⟩, ih.mpr ⟨hsplit, hinner⟩, rfl⟩

-- ============================================================================
-- Finding
-- ============================================================================

/-- A match that was found, between what it stands in. -/
structure Found where
  pre : List Char
  body : List Char
  post : List Char
  captures : List Capture
deriving DecidableEq, Repr

/-- What it found is a match of the text. -/
structure Found.Valid (r : Pattern) (text : List Char) (m : Found) : Prop where
  text_eq : m.pre ++ m.body ++ m.post = text
  matched : r.Matches m.pre m.body m.post m.captures

/-- `finditer` from the place after `pre`, of which the next `skip` characters are covered by
    the last match. -/
def scan (r : Pattern) (pre : List Char) (skip : Nat) : List Char → List Found
  | [] =>
      match skip, r.results pre [] with
      | 0, first :: _ => [⟨pre, first.body, first.post, first.captures⟩]
      | _, _ => []
  | c :: rest =>
      match skip with
      | skip + 1 => scan r (pre ++ [c]) skip rest
      | 0 =>
          match r.results pre (c :: rest) with
          | [] => scan r (pre ++ [c]) 0 rest
          | first :: _ =>
              ⟨pre, first.body, first.post, first.captures⟩ ::
                scan r (pre ++ [c]) (first.body.length - 1) rest

/-- The matches in a text from left to right, none of them overlapping, of a pattern that does
    not match the empty text. -/
def finditer (r : Pattern) (text : List Char) : List Found := r.scan [] 0 text

/-- The leftmost match from the place after `pre`. -/
def searchFrom (r : Pattern) (pre : List Char) : List Char → Option Found
  | [] => (r.results pre []).head?.map fun first =>
      ⟨pre, first.body, first.post, first.captures⟩
  | c :: rest =>
      match r.results pre (c :: rest) with
      | [] => searchFrom r (pre ++ [c]) rest
      | first :: _ => some ⟨pre, first.body, first.post, first.captures⟩

/-- The leftmost match. -/
def search (r : Pattern) (text : List Char) : Option Found := r.searchFrom [] text

section Scan

variable {r : Pattern}

/-- The preferred result is a match. -/
theorem found_of_results {pre after : List Char} {first : Result} {others : List Result}
    (h : r.results pre after = first :: others) :
    after = first.body ++ first.post ∧ r.Matches pre first.body first.post first.captures :=
  mem_results.mp (h ▸ List.mem_cons_self ..)

theorem results_eq_nil {pre after : List Char} (h : r.results pre after = [])
    {body post : List Char} {captures : List Capture} (hsplit : after = body ++ post) :
    ¬ r.Matches pre body post captures := fun hmatched => by
  have hmem := mem_results.mpr ⟨hsplit, hmatched⟩
  rw [h] at hmem
  cases hmem

theorem scan_cons_zero (r : Pattern) (pre : List Char) (c : Char) (rest : List Char) :
    r.scan pre 0 (c :: rest) =
      match r.results pre (c :: rest) with
      | [] => r.scan (pre ++ [c]) 0 rest
      | first :: _ =>
          ⟨pre, first.body, first.post, first.captures⟩ ::
            r.scan (pre ++ [c]) (first.body.length - 1) rest := rfl

theorem scan_matches {after : List Char} :
    ∀ {pre : List Char} {skip : Nat} {m : Found}, m ∈ r.scan pre skip after →
      m.Valid r (pre ++ after) ∧ ∃ read, m.pre = pre ++ read ∧ skip ≤ read.length := by
  induction after with
  | nil =>
      intro pre skip m h
      unfold scan at h
      split at h
      · rename_i first others hresults
        obtain rfl := List.mem_singleton.mp h
        obtain ⟨hsplit, hmatched⟩ := found_of_results hresults
        exact ⟨⟨by rw [List.append_assoc, ← hsplit], hmatched⟩, [], (List.append_nil _).symm,
          Nat.le_refl _⟩
      · cases h
  | cons c rest ih =>
      intro pre skip m h
      have hlater {skip' : Nat} (hskip : skip ≤ skip' + 1)
          (hmem : m ∈ r.scan (pre ++ [c]) skip' rest) :
          m.Valid r (pre ++ c :: rest) ∧ ∃ read, m.pre = pre ++ read ∧ skip ≤ read.length := by
        obtain ⟨hvalid, read, hpre, hread⟩ := ih hmem
        rw [List.append_assoc] at hvalid
        exact ⟨hvalid, c :: read, by rw [hpre, List.append_assoc, List.singleton_append],
          by rw [List.length_cons]; omega⟩
      unfold scan at h
      split at h
      · exact hlater (Nat.le_refl _) h
      · split at h
        · exact hlater (Nat.zero_le _) h
        · rename_i first others hresults
          rcases List.mem_cons.mp h with rfl | hmem
          · obtain ⟨hsplit, hmatched⟩ := found_of_results hresults
            exact ⟨⟨by rw [List.append_assoc, ← hsplit], hmatched⟩, [],
              (List.append_nil _).symm, Nat.le_refl _⟩
          · exact hlater (Nat.zero_le _) hmem

/-- A place is covered: it starts a match that was found, or is inside of one. -/
def Covered (found : List Found) (place : List Char) : Prop :=
  ∃ m ∈ found, m.pre = place ∨
    (m.pre.length < place.length ∧ place.length < m.pre.length + m.body.length)

theorem Covered.mono {found later : List Found} {place : List Char} (h : Covered found place)
    (hsubset : ∀ m ∈ found, m ∈ later) : Covered later place := by
  obtain ⟨m, hmem, hplace⟩ := h
  exact ⟨m, hsubset m hmem, hplace⟩

theorem scan_covers {after : List Char} :
    ∀ {pre : List Char} {skip : Nat} {read body post : List Char} {captures : List Capture},
      after = read ++ (body ++ post) → skip ≤ read.length →
      r.Matches (pre ++ read) body post captures →
      Covered (r.scan pre skip after) (pre ++ read) := by
  induction after with
  | nil =>
      intro pre skip read body post captures hsplit hskip hmatched
      obtain ⟨rfl, hnil⟩ := List.append_eq_nil_iff.mp hsplit.symm
      obtain rfl := Nat.le_zero.mp hskip
      rw [List.append_nil] at hmatched ⊢
      unfold scan
      split
      · rename_i first others hresults
        exact ⟨_, List.mem_singleton_self _, .inl rfl⟩
      · rename_i hnone
        cases hresults : r.results pre [] with
        | nil => exact absurd hmatched (results_eq_nil hresults hnil.symm)
        | cons first others => exact absurd hresults (hnone first others rfl)
  | cons c rest ih =>
      intro pre skip read body post captures hsplit hskip hmatched
      cases read with
      | nil =>
          obtain rfl := Nat.le_zero.mp hskip
          rw [List.append_nil] at hmatched ⊢
          rw [scan_cons_zero]
          split
          · rename_i hresults
            exact absurd hmatched (results_eq_nil hresults hsplit)
          · exact ⟨_, List.mem_cons_self .., .inl rfl⟩
      | cons d read =>
          obtain ⟨rfl, hrest⟩ := List.cons.inj hsplit
          have hplace : pre ++ c :: read = (pre ++ [c]) ++ read := by
            rw [List.append_assoc, List.singleton_append]
          rw [hplace] at hmatched ⊢
          unfold scan
          split
          · rename_i skip
            exact ih hrest (Nat.le_of_succ_le_succ hskip) hmatched
          · split
            · exact ih hrest (Nat.zero_le _) hmatched
            · rename_i first others hresults
              by_cases hinside : first.body.length - 1 ≤ read.length
              · exact (ih hrest hinside hmatched).mono fun m hm => List.mem_cons_of_mem _ hm
              · refine ⟨_, List.mem_cons_self .., .inr ?_⟩
                simp only [List.length_append, List.length_cons, List.length_nil]
                omega

/-- Matches are found from left to right, each after the end of the one before. -/
theorem scan_pairwise {after : List Char} :
    ∀ {pre : List Char} {skip : Nat}, (r.scan pre skip after).Pairwise fun m n =>
      m.pre.length < n.pre.length ∧ m.pre.length + m.body.length ≤ n.pre.length := by
  induction after with
  | nil =>
      intro pre skip
      unfold scan
      split
      · exact List.pairwise_singleton ..
      · exact List.Pairwise.nil
  | cons c rest ih =>
      intro pre skip
      unfold scan
      split
      · exact ih
      · split
        · exact ih
        · rename_i first others hresults
          refine List.pairwise_cons.mpr ⟨fun n hn => ?_, ih⟩
          obtain ⟨-, read, hpre, hread⟩ := scan_matches hn
          rw [hpre]
          simp only [List.length_append, List.length_singleton]
          omega

end Scan

section Finditer

variable {r : Pattern} {text : List Char}

theorem finditer_matches {m : Found} (h : m ∈ r.finditer text) : m.Valid r text :=
  (scan_matches h).1

/-- Where the pattern matches, a match was found that starts there or covers the place. -/
theorem finditer_covers {pre body post : List Char} {captures : List Capture}
    (htext : pre ++ body ++ post = text) (hmatched : r.Matches pre body post captures) :
    ∃ m ∈ r.finditer text, m.pre = pre ∨
      (m.pre.length < pre.length ∧ pre.length < m.pre.length + m.body.length) := by
  have hsplit : text = pre ++ (body ++ post) := by rw [← htext, List.append_assoc]
  have hcovered : Covered (r.scan [] 0 text) ([] ++ pre) :=
    scan_covers hsplit (Nat.zero_le _) hmatched
  exact hcovered

/-- The same, with the place as what the match that was found begins with. -/
theorem finditer_covers_front {pre body post : List Char} {captures : List Capture}
    (htext : pre ++ body ++ post = text) (hmatched : r.Matches pre body post captures) :
    ∃ m ∈ r.finditer text, ∃ front, pre = m.pre ++ front ∧
      (front = [] ∨ front.length < m.body.length) := by
  obtain ⟨m, hm, hplace⟩ := finditer_covers htext hmatched
  have hle : m.pre.length ≤ pre.length := by
    rcases hplace with heq | ⟨hlt, -⟩
    · exact Nat.le_of_eq (congrArg List.length heq)
    · exact Nat.le_of_lt hlt
  have hprefix : m.pre <+: text := ⟨_, (List.append_assoc ..).symm.trans
    (finditer_matches hm).text_eq⟩
  obtain ⟨front, rfl⟩ := List.prefix_of_prefix_length_le hprefix
    ⟨_, (List.append_assoc ..).symm.trans htext⟩ hle
  refine ⟨m, hm, front, rfl, ?_⟩
  rw [List.length_append] at hplace
  rcases hplace with heq | ⟨-, hlt⟩
  · exact .inl (List.append_right_eq_self.mp heq.symm)
  · exact .inr (Nat.lt_of_add_lt_add_left hlt)

/-- Of two matches, one ends before the other starts. -/
theorem finditer_disjoint {m n : Found} (hm : m ∈ r.finditer text) (hn : n ∈ r.finditer text)
    (hlt : m.pre.length < n.pre.length) : m.pre.length + m.body.length ≤ n.pre.length := by
  have hself : ∀ x ∈ r.finditer text, x.pre.length < x.pre.length →
      x.pre.length + x.body.length ≤ x.pre.length :=
    fun x _ hx => absurd hx (Nat.lt_irrefl _)
  have hforward : (r.finditer text).Pairwise fun a b =>
      a.pre.length < b.pre.length → a.pre.length + a.body.length ≤ b.pre.length :=
    scan_pairwise.imp fun h _ => h.2
  have hbackward : (r.finditer text).Pairwise fun a b =>
      b.pre.length < a.pre.length → b.pre.length + b.body.length ≤ a.pre.length :=
    scan_pairwise.imp fun h hback => absurd h.1 (Nat.lt_asymm hback)
  exact hforward.forall_of_forall_of_flip hself hbackward hm hn hlt

end Finditer

section Search

variable {r : Pattern}

theorem searchFrom_eq_some {after : List Char} :
    ∀ {pre : List Char} {m : Found}, r.searchFrom pre after = some m →
      m.Valid r (pre ++ after) ∧
        ∀ read body post captures, after = read ++ (body ++ post) →
          r.Matches (pre ++ read) body post captures →
          m.pre.length ≤ pre.length + read.length := by
  induction after with
  | nil =>
      intro pre m h
      obtain ⟨first, hfirst, rfl⟩ := Option.map_eq_some_iff.mp h
      obtain ⟨others, hresults⟩ := List.head?_eq_some_iff.mp hfirst
      obtain ⟨hsplit, hmatched⟩ := found_of_results hresults
      exact ⟨⟨by rw [List.append_assoc, ← hsplit], hmatched⟩,
        fun read _ _ _ _ _ => Nat.le_add_right ..⟩
  | cons c rest ih =>
      intro pre m h
      unfold searchFrom at h
      split at h
      · rename_i hresults
        obtain ⟨hvalid, hleftmost⟩ := ih h
        rw [List.append_assoc] at hvalid
        refine ⟨hvalid, fun read body post captures hsplit hmatched => ?_⟩
        cases read with
        | nil =>
            rw [List.append_nil] at hmatched
            exact absurd hmatched (results_eq_nil hresults hsplit)
        | cons d read =>
            obtain ⟨rfl, hrest⟩ := List.cons.inj hsplit
            have hplace : pre ++ c :: read = (pre ++ [c]) ++ read := by
              rw [List.append_assoc, List.singleton_append]
            rw [hplace] at hmatched
            have hle := hleftmost read body post captures hrest hmatched
            simp only [List.length_append, List.length_cons, List.length_nil] at hle ⊢
            omega
      · rename_i first others hresults
        obtain rfl := Option.some.inj h
        obtain ⟨hsplit, hmatched⟩ := found_of_results hresults
        exact ⟨⟨by rw [List.append_assoc, ← hsplit], hmatched⟩,
          fun read _ _ _ _ _ => Nat.le_add_right ..⟩

theorem searchFrom_eq_none {after : List Char} :
    ∀ {pre : List Char}, r.searchFrom pre after = none →
      ∀ read body post captures, after = read ++ (body ++ post) →
        ¬ r.Matches (pre ++ read) body post captures := by
  induction after with
  | nil =>
      intro pre h read body post captures hsplit
      obtain ⟨rfl, hnil⟩ := List.append_eq_nil_iff.mp hsplit.symm
      have hresults : r.results pre [] = [] :=
        List.head?_eq_none_iff.mp (Option.map_eq_none_iff.mp h)
      rw [List.append_nil]
      exact results_eq_nil hresults hnil.symm
  | cons c rest ih =>
      intro pre h read body post captures hsplit
      unfold searchFrom at h
      split at h
      · rename_i hresults
        cases read with
        | nil =>
            rw [List.append_nil]
            exact results_eq_nil hresults hsplit
        | cons d read =>
            obtain ⟨rfl, hrest⟩ := List.cons.inj hsplit
            have hplace : pre ++ c :: read = (pre ++ [c]) ++ read := by
              rw [List.append_assoc, List.singleton_append]
            rw [hplace]
            exact ih h read body post captures hrest
      · cases h

variable {text : List Char}

theorem search_matches {m : Found} (h : r.search text = some m) : m.Valid r text :=
  (searchFrom_eq_some h).1

/-- Nothing matches further to the left. -/
theorem search_leftmost {m : Found} (h : r.search text = some m)
    {pre body post : List Char} {captures : List Capture} (htext : pre ++ body ++ post = text)
    (hmatched : r.Matches pre body post captures) : m.pre.length ≤ pre.length := by
  have hsplit : text = pre ++ (body ++ post) := by rw [← htext, List.append_assoc]
  have hle := (searchFrom_eq_some h).2 pre body post captures hsplit hmatched
  rwa [List.length_nil, Nat.zero_add] at hle

theorem search_eq_none {pre body post : List Char} {captures : List Capture}
    (h : r.search text = none) (htext : pre ++ body ++ post = text) :
    ¬ r.Matches pre body post captures :=
  searchFrom_eq_none h pre body post captures (by rw [← htext, List.append_assoc])

end Search

-- ============================================================================
-- What can be consumed
-- ============================================================================

/-- Every character that the pattern can consume has the property. -/
def Consumes (P : Char → Prop) : Pattern → Prop
  | .empty | .boundary _ => True
  | .set p | .many p => ∀ c, p c = true → P c
  | .seq first second | .alt first second => first.Consumes P ∧ second.Consumes P
  | .group _ inner => inner.Consumes P

theorem Consumes.forall_mem {P : Char → Prop} {r : Pattern} (h : r.Consumes P)
    {pre body post : List Char} {captures : List Capture}
    (hmatched : r.Matches pre body post captures) : ∀ c ∈ body, P c := by
  induction r generalizing pre body post captures with
  | empty =>
      obtain ⟨rfl, -⟩ := hmatched
      exact nofun
  | boundary word =>
      obtain ⟨rfl, -⟩ := hmatched
      exact nofun
  | set p =>
      obtain ⟨⟨c, rfl, hc⟩, -⟩ := hmatched
      intro d hd
      obtain rfl := List.mem_singleton.mp hd
      exact h d hc
  | many p => exact fun c hc => h c (hmatched.1 c hc)
  | seq first second ihFirst ihSecond =>
      obtain ⟨body₁, body₂, captures₁, captures₂, rfl, -, hfirst, hsecond⟩ := hmatched
      exact List.forall_mem_append.mpr ⟨ihFirst h.1 hfirst, ihSecond h.2 hsecond⟩
  | alt first second ihFirst ihSecond =>
      rcases hmatched with hfirst | hsecond
      · exact ihFirst h.1 hfirst
      · exact ihSecond h.2 hsecond
  | group index inner ih =>
      obtain ⟨inside, -, hinner⟩ := hmatched
      exact ih h hinner

/-- A pattern without groups and boundaries matches a text wherever it stands. -/
def Plain : Pattern → Prop
  | .empty | .set _ | .many _ => True
  | .seq first second | .alt first second => first.Plain ∧ second.Plain
  | .boundary _ | .group _ _ => False

/-- A plain pattern matches the text. -/
def Spells (r : Pattern) (body : List Char) : Prop := r.Matches [] body [] []

theorem Plain.matches_iff {r : Pattern} (h : r.Plain) {pre body post : List Char}
    {captures : List Capture} :
    r.Matches pre body post captures ↔ r.Spells body ∧ captures = [] := by
  unfold Spells
  induction r generalizing pre body post captures with
  | empty => simp only [Matches, and_true]
  | set p => simp only [Matches, and_true]
  | many p => simp only [Matches, and_true]
  | boundary word => exact h.elim
  | group index inner ih => exact h.elim
  | seq first second ihFirst ihSecond =>
      constructor
      · rintro ⟨body₁, body₂, captures₁, captures₂, rfl, rfl, h₁, h₂⟩
        obtain ⟨hfirst, rfl⟩ := (ihFirst h.1).mp h₁
        obtain ⟨hsecond, rfl⟩ := (ihSecond h.2).mp h₂
        exact ⟨⟨body₁, body₂, [], [], rfl, rfl, (ihFirst h.1).mpr ⟨hfirst, rfl⟩,
          (ihSecond h.2).mpr ⟨hsecond, rfl⟩⟩, rfl⟩
      · rintro ⟨⟨body₁, body₂, captures₁, captures₂, rfl, hnil, h₁, h₂⟩, rfl⟩
        exact ⟨body₁, body₂, captures₁, captures₂, rfl, hnil,
          (ihFirst h.1).mpr ((ihFirst h.1).mp h₁), (ihSecond h.2).mpr ((ihSecond h.2).mp h₂)⟩
  | alt first second ihFirst ihSecond =>
      simp only [Matches]
      rw [ihFirst h.1, ihSecond h.2]
      exact or_and_right.symm

theorem spells_seq {first second : Pattern} (hfirst : first.Plain) (hsecond : second.Plain)
    {body : List Char} : (seq first second).Spells body ↔
      ∃ body₁ body₂, body = body₁ ++ body₂ ∧ first.Spells body₁ ∧ second.Spells body₂ := by
  constructor
  · rintro ⟨body₁, body₂, _, _, rfl, -, h₁, h₂⟩
    exact ⟨body₁, body₂, rfl, (hfirst.matches_iff.mp h₁).1, (hsecond.matches_iff.mp h₂).1⟩
  · rintro ⟨body₁, body₂, rfl, h₁, h₂⟩
    exact ⟨body₁, body₂, [], [], rfl, rfl, hfirst.matches_iff.mpr ⟨h₁, rfl⟩,
      hsecond.matches_iff.mpr ⟨h₂, rfl⟩⟩

theorem spells_alt {first second : Pattern} {body : List Char} :
    (alt first second).Spells body ↔ first.Spells body ∨ second.Spells body := Iff.rfl

theorem plain_seq {first second : Pattern} (hfirst : first.Plain) (hsecond : second.Plain) :
    (seq first second).Plain := ⟨hfirst, hsecond⟩

theorem plain_optional {r : Pattern} (h : r.Plain) : (optional r).Plain := ⟨h, trivial⟩

theorem plain_several (p : Char → Bool) : (several p).Plain := ⟨trivial, trivial⟩

theorem plain_chars (classes : List (Char → Bool)) : (chars classes).Plain := by
  induction classes with
  | nil => trivial
  | cons p rest ih => exact ⟨trivial, ih⟩

theorem consumes_chars {P : Char → Prop} {classes : List (Char → Bool)} :
    (chars classes).Consumes P ↔ ∀ p ∈ classes, ∀ c, p c = true → P c := by
  induction classes with
  | nil => exact ⟨fun _ => nofun, fun _ => trivial⟩
  | cons p rest ih =>
      rw [List.forall_mem_cons, ← ih]
      rfl

-- ============================================================================
-- Derived patterns
-- ============================================================================

section Derived

variable {pre body post : List Char} {captures : List Capture}

theorem spells_optional {r : Pattern} :
    (optional r).Spells body ↔ r.Spells body ∨ body = [] := by
  unfold Spells
  exact or_congr_right (and_iff_left rfl)

theorem matches_several {p : Char → Bool} :
    (several p).Matches pre body post captures ↔
      body ≠ [] ∧ (∀ c ∈ body, p c = true) ∧ captures = [] := by
  constructor
  · rintro ⟨_, rest, _, _, rfl, rfl, ⟨⟨c, rfl, hc⟩, rfl⟩, hrest, rfl⟩
    exact ⟨List.cons_ne_nil _ _, List.forall_mem_cons.mpr ⟨hc, hrest⟩, rfl⟩
  · rintro ⟨hne, hall, rfl⟩
    obtain ⟨c, rest, rfl⟩ := List.exists_cons_of_ne_nil hne
    obtain ⟨hc, hrest⟩ := List.forall_mem_cons.mp hall
    exact ⟨[c], rest, [], [], rfl, rfl, ⟨⟨c, rfl, hc⟩, rfl⟩, hrest, rfl⟩

theorem matches_chars {classes : List (Char → Bool)} :
    (chars classes).Matches pre body post captures ↔
      List.Forall₂ (fun p c => p c = true) classes body ∧ captures = [] := by
  induction classes generalizing pre body captures with
  | nil =>
      constructor
      · rintro ⟨rfl, rfl⟩
        exact ⟨.nil, rfl⟩
      · rintro ⟨⟨⟩, rfl⟩
        exact ⟨rfl, rfl⟩
  | cons p rest ih =>
      constructor
      · rintro ⟨_, body₂, _, _, rfl, rfl, ⟨⟨c, rfl, hc⟩, rfl⟩, hrest⟩
        obtain ⟨hall, rfl⟩ := ih.mp hrest
        exact ⟨.cons hc hall, rfl⟩
      · rintro ⟨hall, rfl⟩
        cases hall with
        | cons hc hrest =>
            exact ⟨[_], _, [], [], rfl, rfl, ⟨⟨_, rfl, hc⟩, rfl⟩, ih.mpr ⟨hrest, rfl⟩⟩

theorem spells_several {p : Char → Bool} :
    (several p).Spells body ↔ body ≠ [] ∧ ∀ c ∈ body, p c = true := by
  unfold Spells
  rw [matches_several, and_iff_left rfl]

theorem spells_chars {classes : List (Char → Bool)} :
    (chars classes).Spells body ↔ List.Forall₂ (fun p c => p c = true) classes body := by
  unfold Spells
  rw [matches_chars, and_iff_left rfl]

end Derived

end Pattern

end Regex
