/-
  TradingPlatform.Lib.JoinedText

  Texts joined by a separating character, and the parts read back.

  A part without the separator ends at the first one (`intercalate_cons_inj`),
  and parts that are all without it are determined by the joined text
  (`intercalate_inj`).  A run of a class of characters ends at the first other
  character (`append_class_inj`).  The ASCII classes are ranges of code points.
-/

import Mathlib.Data.List.Basic

namespace JoinedText

section Lists

variable {α : Type*} {separator : α} {part₁ part₂ : List α} {rest₁ rest₂ : List (List α)}

theorem mem_or_mem_of_mem_intercalate {x : α} {separators : List α} {parts : List (List α)}
    (h : x ∈ separators.intercalate parts) : x ∈ separators ∨ ∃ part ∈ parts, x ∈ part := by
  induction parts with
  | nil => cases h
  | cons part rest ih =>
      cases rest with
      | nil =>
          rw [List.intercalate_singleton] at h
          exact .inr ⟨part, List.mem_singleton_self part, h⟩
      | cons next rest =>
          rw [List.intercalate_cons_cons, List.mem_append, List.mem_append] at h
          rcases h with (hpart | hseparators) | hrest
          · exact .inr ⟨part, List.mem_cons_self .., hpart⟩
          · exact .inl hseparators
          · refine (ih hrest).imp_right ?_
            rintro ⟨other, hmem, hx⟩
            exact ⟨other, List.mem_cons_of_mem part hmem, hx⟩

/-- The part before the first separator, and the rest. -/
theorem append_separator_inj {tail₁ tail₂ : List α} (h₁ : separator ∉ part₁)
    (h₂ : separator ∉ part₂) (h : part₁ ++ separator :: tail₁ = part₂ ++ separator :: tail₂) :
    part₁ = part₂ ∧ tail₁ = tail₂ := by
  induction part₁ generalizing part₂ with
  | nil =>
      cases part₂ with
      | nil => exact ⟨rfl, List.tail_eq_of_cons_eq h⟩
      | cons first part₂ =>
          obtain ⟨rfl, -⟩ := List.cons.inj h
          exact absurd (List.mem_cons_self ..) h₂
  | cons first part₁ ih =>
      cases part₂ with
      | nil =>
          obtain ⟨rfl, -⟩ := List.cons.inj h
          exact absurd (List.mem_cons_self ..) h₁
      | cons other part₂ =>
          obtain ⟨rfl, hrest⟩ := List.cons.inj h
          obtain ⟨rfl, htails⟩ := ih (List.not_mem_of_not_mem_cons h₁)
            (List.not_mem_of_not_mem_cons h₂) hrest
          exact ⟨rfl, htails⟩

theorem intercalate_cons_inj (h₁ : separator ∉ part₁) (h₂ : separator ∉ part₂)
    (hrest₁ : rest₁ ≠ []) (hrest₂ : rest₂ ≠ [])
    (h : [separator].intercalate (part₁ :: rest₁) = [separator].intercalate (part₂ :: rest₂)) :
    part₁ = part₂ ∧ [separator].intercalate rest₁ = [separator].intercalate rest₂ := by
  rw [List.intercalate_cons_of_ne_nil hrest₁, List.intercalate_cons_of_ne_nil hrest₂,
    List.append_assoc, List.append_assoc] at h
  exact append_separator_inj h₁ h₂ h

/-- Parts without a separator in them are the split of the joined list. -/
theorem intercalate_inj [DecidableEq α] {parts₁ parts₂ : List (List α)}
    (h₁ : ∀ part ∈ parts₁, separator ∉ part) (h₂ : ∀ part ∈ parts₂, separator ∉ part)
    (hne₁ : parts₁ ≠ []) (hne₂ : parts₂ ≠ [])
    (h : [separator].intercalate parts₁ = [separator].intercalate parts₂) : parts₁ = parts₂ := by
  rw [← List.splitOn_intercalate separator h₁ hne₁, h, List.splitOn_intercalate separator h₂ hne₂]

theorem head_cons {p : α → Bool} {x : α} (hx : p x = false) (tail : List α) :
    ∀ y ∈ (x :: tail).head?, p y = false := by
  intro y hy
  obtain rfl := Option.some.inj hy
  exact hx

theorem head_append {p : α → Bool} {run tail : List α} (hrun : ∀ x ∈ run, p x = false)
    (htail : ∀ x ∈ tail.head?, p x = false) : ∀ x ∈ (run ++ tail).head?, p x = false := by
  cases run with
  | nil => exact htail
  | cons x run => exact head_cons (hrun x (List.mem_cons_self ..)) (run ++ tail)

theorem last_concat {p : α → Bool} {x : α} (hx : p x = false) (front : List α) :
    ∀ y ∈ (front ++ [x]).getLast?, p y = false := by
  intro y hy
  rw [List.getLast?_concat] at hy
  obtain rfl := Option.some.inj hy
  exact hx

/-- Two runs of a class, each ended by what follows it. -/
theorem append_class_inj {p : α → Bool} {run₁ run₂ tail₁ tail₂ : List α}
    (h₁ : ∀ x ∈ run₁, p x = true) (h₂ : ∀ x ∈ run₂, p x = true)
    (hend₁ : ∀ x ∈ tail₁.head?, p x = false) (hend₂ : ∀ x ∈ tail₂.head?, p x = false)
    (h : run₁ ++ tail₁ = run₂ ++ tail₂) : run₁ = run₂ ∧ tail₁ = tail₂ := by
  have htake {run tail : List α} (hrun : ∀ x ∈ run, p x = true)
      (hend : ∀ x ∈ tail.head?, p x = false) : (run ++ tail).takeWhile p = run := by
    rw [List.takeWhile_append_of_pos hrun]
    cases tail with
    | nil => rw [List.takeWhile_nil, List.append_nil]
    | cons x tail =>
        rw [List.takeWhile_cons_of_neg (by rw [hend x rfl]; exact Bool.false_ne_true),
          List.append_nil]
  have hrun : run₁ = run₂ := by rw [← htake h₁ hend₁, h, htake h₂ hend₂]
  subst hrun
  exact ⟨rfl, List.append_cancel_left h⟩

/-- The same from the right. -/
theorem append_class_inj_right {p : α → Bool} {run₁ run₂ tail₁ tail₂ : List α}
    (h₁ : ∀ x ∈ run₁, p x = true) (h₂ : ∀ x ∈ run₂, p x = true)
    (hend₁ : ∀ x ∈ tail₁.getLast?, p x = false) (hend₂ : ∀ x ∈ tail₂.getLast?, p x = false)
    (h : tail₁ ++ run₁ = tail₂ ++ run₂) : tail₁ = tail₂ ∧ run₁ = run₂ := by
  have hreverse := congrArg List.reverse h
  rw [List.reverse_append, List.reverse_append] at hreverse
  obtain ⟨hruns, htails⟩ := append_class_inj (p := p)
    (fun x hx => h₁ x (List.mem_reverse.mp hx)) (fun x hx => h₂ x (List.mem_reverse.mp hx))
    (by rwa [List.head?_reverse]) (by rwa [List.head?_reverse]) hreverse
  exact ⟨List.reverse_injective htails, List.reverse_injective hruns⟩

/-- A run of a class is part of what a character outside of the class ends. -/
theorem append_class_prefix {p : α → Bool} {run tail first rest : List α}
    (hrun : ∀ x ∈ run, p x = true) (hne : first ≠ []) (hlast : ∀ x ∈ first.getLast?, p x = false)
    (h : run ++ tail = first ++ rest) :
    ∃ middle, middle ≠ [] ∧ first = run ++ middle ∧ tail = middle ++ rest := by
  have hend : ∃ x ∈ first, p x = false :=
    ⟨first.getLast hne, List.getLast_mem hne, hlast _ (List.getLast?_eq_some_getLast hne)⟩
  obtain ⟨x, hx, hpx⟩ := hend
  have hnot : x ∉ run := fun hmem => by
    rw [hrun x hmem] at hpx
    cases hpx
  rcases List.append_eq_append_iff.mp h with ⟨middle, rfl, rfl⟩ | ⟨middle, rfl, -⟩
  · refine ⟨middle, ?_, rfl, rfl⟩
    rintro rfl
    rw [List.append_nil] at hx
    exact hnot hx
  · exact absurd (List.mem_append_left middle hx) hnot

/-- A part ends before an element, or has it. -/
theorem append_cons_cases {x : α} {part tail first rest : List α}
    (h : part ++ tail = first ++ x :: rest) :
    (∃ middle, first = part ++ middle ∧ tail = middle ++ x :: rest) ∨ x ∈ part := by
  rcases List.append_eq_append_iff.mp h with ⟨middle, rfl, rfl⟩ | ⟨middle, rfl, hrest⟩
  · exact .inl ⟨middle, rfl, rfl⟩
  · cases middle with
    | nil => exact .inl ⟨[], (List.append_nil _).symm.trans (List.append_nil _).symm, hrest.symm⟩
    | cons y middle =>
        obtain ⟨rfl, -⟩ := List.cons.inj hrest
        exact .inr (List.mem_append_right first (List.mem_cons_self ..))

theorem append_notMem_prefix {x : α} {part tail first rest : List α} (hx : x ∉ part)
    (h : part ++ tail = first ++ x :: rest) :
    ∃ middle, first = part ++ middle ∧ tail = middle ++ x :: rest :=
  (append_cons_cases h).resolve_right hx

/-- The element at a place inside of the middle part. -/
theorem mem_middle_of_append {x : α} {before after first middle rest : List α}
    (h : before ++ x :: after = first ++ (middle ++ rest)) (hfirst : first.length ≤ before.length)
    (hmiddle : before.length < first.length + middle.length) : x ∈ middle := by
  have hplace : (first ++ (middle ++ rest))[before.length]? = some x := by
    rw [← h, List.getElem?_append_right (Nat.le_refl _), Nat.sub_self]
    rfl
  rw [List.getElem?_append_right hfirst, List.getElem?_append_left (by omega)] at hplace
  exact List.mem_of_getElem? hplace

/-- A part without the character stands on one side of it. -/
theorem infix_append_cons {x : α} {part first rest : List α} (hx : x ∉ part)
    (h : part <:+: first ++ x :: rest) : part <:+: first ∨ part <:+: rest := by
  obtain ⟨left, right, h⟩ := h
  rw [List.append_assoc] at h
  rcases List.append_eq_append_iff.mp h with ⟨middle, rfl, hright⟩ | ⟨middle, rfl, hrest⟩
  · obtain ⟨after, rfl, -⟩ := append_notMem_prefix hx hright
    exact .inl ⟨left, after, List.append_assoc ..⟩
  · cases middle with
    | nil =>
        have hprefix : part ++ right = [] ++ x :: rest := hrest.symm
        obtain ⟨after, hnil, -⟩ := append_notMem_prefix hx hprefix
        obtain ⟨rfl, rfl⟩ := List.append_eq_nil_iff.mp hnil.symm
        exact .inl (List.nil_infix)
    | cons y middle =>
        obtain ⟨rfl, rfl⟩ := List.cons.inj hrest
        exact .inr ⟨middle, right, List.append_assoc ..⟩

/-- A part without any character of a run stands on one side of the run. -/
theorem infix_append_run {run part first rest : List α} (hrun : run ≠ [])
    (hdisjoint : ∀ x ∈ run, x ∉ part) :
    part <:+: first ++ (run ++ rest) ↔ part <:+: first ∨ part <:+: rest := by
  constructor
  · intro h
    induction run generalizing first with
    | nil => exact absurd rfl hrun
    | cons x run ih =>
        obtain ⟨hx, hothers⟩ := List.forall_mem_cons.mp hdisjoint
        refine (infix_append_cons hx h).imp_right fun hrest => ?_
        by_cases hempty : run = []
        · rw [hempty] at hrest
          exact hrest
        · have hsides : part <:+: [] ∨ part <:+: rest := ih hempty hothers hrest
          refine hsides.elim (fun hnil => ?_) id
          rw [List.infix_nil.mp hnil]
          exact List.nil_infix
  · rintro (hfirst | hrest)
    · exact hfirst.trans (List.prefix_append ..).isInfix
    · exact hrest.trans ((List.suffix_append ..).trans (List.suffix_append ..)).isInfix

end Lists

-- ============================================================================
-- ASCII characters
-- ============================================================================

section Characters

variable {c : Char}

theorem isUpper_iff : c.isUpper = true ↔ 65 ≤ c.toNat ∧ c.toNat ≤ 90 :=
  decide_eq_true_iff.trans (and_congr UInt32.le_iff_toNat_le UInt32.le_iff_toNat_le)

theorem isLower_iff : c.isLower = true ↔ 97 ≤ c.toNat ∧ c.toNat ≤ 122 :=
  (Bool.and_eq_true_iff.trans (and_congr decide_eq_true_iff decide_eq_true_iff)).trans
    (and_congr UInt32.le_iff_toNat_le UInt32.le_iff_toNat_le)

theorem isAlpha_iff : c.isAlpha = true ↔ c.isUpper = true ∨ c.isLower = true :=
  Bool.or_eq_true_iff

theorem toLower_of_not_isUpper (h : ¬c.isUpper = true) : c.toLower = c :=
  dif_neg fun hupper => h (decide_eq_true hupper)

end Characters

-- ============================================================================
-- Strings
-- ============================================================================

section Strings

variable {separator : Char}

theorem toList_intercalate_singleton (parts : List String) :
    (String.intercalate (String.singleton separator) parts).toList =
      [separator].intercalate (parts.map String.toList) := by
  rw [String.toList_intercalate, String.toList_singleton]

theorem notMem_intercalate {c : Char} {parts : List String} (hc : c ≠ separator)
    (h : ∀ part ∈ parts, c ∉ part.toList) :
    c ∉ (String.intercalate (String.singleton separator) parts).toList := by
  rw [toList_intercalate_singleton]
  intro hmem
  rcases mem_or_mem_of_mem_intercalate hmem with hseparator | ⟨part, hpart, hcpart⟩
  · exact hc (List.mem_singleton.mp hseparator)
  · obtain ⟨text, htext, rfl⟩ := List.mem_map.mp hpart
    exact h text htext hcpart

theorem stringIntercalate_cons_inj {part₁ part₂ : String} {rest₁ rest₂ : List String}
    (h₁ : separator ∉ part₁.toList) (h₂ : separator ∉ part₂.toList)
    (hrest₁ : rest₁ ≠ []) (hrest₂ : rest₂ ≠ [])
    (h : String.intercalate (String.singleton separator) (part₁ :: rest₁) =
      String.intercalate (String.singleton separator) (part₂ :: rest₂)) :
    part₁ = part₂ ∧ String.intercalate (String.singleton separator) rest₁ =
      String.intercalate (String.singleton separator) rest₂ := by
  have hlists := congrArg String.toList h
  rw [toList_intercalate_singleton, toList_intercalate_singleton, List.map_cons,
    List.map_cons] at hlists
  obtain ⟨hparts, hrest⟩ := intercalate_cons_inj h₁ h₂ (mt List.map_eq_nil_iff.mp hrest₁)
    (mt List.map_eq_nil_iff.mp hrest₂) hlists
  rw [← toList_intercalate_singleton, ← toList_intercalate_singleton] at hrest
  exact ⟨String.toList_injective hparts, String.toList_injective hrest⟩

theorem stringIntercalate_inj {parts₁ parts₂ : List String}
    (h₁ : ∀ part ∈ parts₁, separator ∉ part.toList)
    (h₂ : ∀ part ∈ parts₂, separator ∉ part.toList)
    (hne₁ : parts₁ ≠ []) (hne₂ : parts₂ ≠ [])
    (h : String.intercalate (String.singleton separator) parts₁ =
      String.intercalate (String.singleton separator) parts₂) : parts₁ = parts₂ := by
  have hlists := congrArg String.toList h
  rw [toList_intercalate_singleton, toList_intercalate_singleton] at hlists
  have hinjective : Function.Injective String.toList := fun _ _ => String.toList_injective
  refine List.map_injective_iff.mpr hinjective ?_
  exact intercalate_inj (List.forall_mem_map.mpr h₁) (List.forall_mem_map.mpr h₂)
    (mt List.map_eq_nil_iff.mp hne₁) (mt List.map_eq_nil_iff.mp hne₂) hlists

end Strings

end JoinedText
