/-
  TradingPlatform.Lib.Table

  Tables with a primary key, for any row and key type: the rows in some order,
  and the proof that no two of them share a key.

  - `Table.get?` looks a key up; `Table.get?_eq_some` reads it as membership.
  - `Table.insert`, `Table.modify` and `Table.erase` write the row with a given key.
  - `Table.upsert` is an insert or an update; `Table.upsertAll` is a list of them, read back
    by `Table.get?_upsertAll`.
-/

import Mathlib.Data.List.Nodup

/-- The rows of a table, no two with the same key. -/
@[ext] structure Table {α κ : Type _} (key : α → κ) where
  rows : List α
  nodup : (rows.map key).Nodup

namespace Table

variable {α κ : Type _} {key : α → κ}

theorem eq_of_key_eq (t : Table key) {a b : α} (ha : a ∈ t.rows) (hb : b ∈ t.rows)
    (h : key a = key b) : a = b :=
  List.inj_on_of_nodup_map t.nodup ha hb h

variable [DecidableEq κ]

/-- The row of a key. -/
def get? (t : Table key) (k : κ) : Option α := t.rows.find? fun a => key a = k

theorem get?_eq_some {t : Table key} {k : κ} {a : α} :
    t.get? k = some a ↔ a ∈ t.rows ∧ key a = k := by
  constructor
  · intro h
    exact ⟨List.mem_of_find?_eq_some h, by simpa using List.find?_some h⟩
  · rintro ⟨ha, rfl⟩
    cases hfound : t.get? (key a) with
    | none =>
        have hnone := List.find?_eq_none.mp hfound a ha
        simp at hnone
    | some b =>
        have hb := List.mem_of_find?_eq_some hfound
        have hkey : key b = key a := by simpa using List.find?_some hfound
        rw [t.eq_of_key_eq hb ha hkey]

theorem get?_eq_none {t : Table key} {k : κ} : t.get? k = none ↔ ∀ a ∈ t.rows, key a ≠ k := by
  simp [get?]

-- ============================================================================
-- Writes
-- ============================================================================

/-- `INSERT` of a row whose key is not taken. -/
def insert (t : Table key) (a : α) (h : t.get? (key a) = none) : Table key where
  rows := t.rows ++ [a]
  nodup := by
    have hnew : ∀ b ∈ t.rows, key b ≠ key a := get?_eq_none.mp h
    rw [List.map_append, List.map_singleton]
    refine List.nodup_append.mpr ⟨t.nodup, List.nodup_singleton _, ?_⟩
    intro k hk k' hk' heq
    obtain ⟨b, hb, rfl⟩ := List.mem_map.mp hk
    rw [List.mem_singleton.mp hk'] at heq
    exact hnew b hb heq

@[simp] theorem insert_rows (t : Table key) (a : α) (h : t.get? (key a) = none) :
    (t.insert a h).rows = t.rows ++ [a] := rfl

/-- `DELETE … WHERE key = k`. -/
def erase (t : Table key) (k : κ) : Table key where
  rows := t.rows.filter fun a => key a ≠ k
  nodup := t.nodup.sublist (List.filter_sublist.map key)

@[simp] theorem erase_rows (t : Table key) (k : κ) :
    (t.erase k).rows = t.rows.filter fun a => key a ≠ k := rfl

/-- `UPDATE … WHERE key = k`, by a change that keeps the key. -/
def modify (t : Table key) (k : κ) (f : α → α) (hf : ∀ a, key (f a) = key a) : Table key where
  rows := t.rows.map fun a => if key a = k then f a else a
  nodup := by
    have hkeys : (t.rows.map fun a => if key a = k then f a else a).map key = t.rows.map key := by
      rw [List.map_map]
      refine List.map_congr_left fun a _ => ?_
      rw [Function.comp_apply]
      split
      · exact hf a
      · rfl
    rw [hkeys]
    exact t.nodup

@[simp] theorem modify_rows (t : Table key) (k : κ) (f : α → α) (hf : ∀ a, key (f a) = key a) :
    (t.modify k f hf).rows = t.rows.map fun a => if key a = k then f a else a := rfl

theorem get?_modify_self {t : Table key} {k : κ} {f : α → α} {hf : ∀ a, key (f a) = key a}
    {a : α} (h : t.get? k = some a) : (t.modify k f hf).get? k = some (f a) := by
  obtain ⟨ha, hkey⟩ := get?_eq_some.mp h
  refine get?_eq_some.mpr ⟨List.mem_map.mpr ⟨a, ha, if_pos hkey⟩, ?_⟩
  rw [hf, hkey]

-- ============================================================================
-- Upserts
-- ============================================================================

/-- `INSERT … ON CONFLICT (key) DO UPDATE`, of all the other columns. -/
def upsert (t : Table key) (a : α) : Table key :=
  if h : t.get? (key a) = none then
    t.insert a h
  else
    t.modify (key a) (fun b => if key b = key a then a else b) (by
      intro b
      split
      · rename_i hb
        exact hb.symm
      · rfl)

/-- Upserts in order. -/
def upsertAll (t : Table key) (as : List α) : Table key := as.foldl upsert t

theorem mem_upsert_rows {t : Table key} {a b : α} :
    b ∈ (t.upsert a).rows ↔ b = a ∨ (b ∈ t.rows ∧ key b ≠ key a) := by
  unfold upsert
  split
  · rename_i hnone
    rw [insert_rows, List.mem_append, List.mem_singleton]
    constructor
    · rintro (hold | rfl)
      · exact .inr ⟨hold, get?_eq_none.mp hnone b hold⟩
      · exact .inl rfl
    · rintro (rfl | ⟨hold, -⟩)
      · exact .inr rfl
      · exact .inl hold
  · rename_i hsome
    obtain ⟨c, hc⟩ := Option.ne_none_iff_exists'.mp hsome
    obtain ⟨hmem, hkey⟩ := get?_eq_some.mp hc
    rw [modify_rows, List.mem_map]
    constructor
    · rintro ⟨d, hd, rfl⟩
      by_cases heq : key d = key a
      · simp [heq]
      · simp only [heq, if_false]
        exact .inr ⟨hd, heq⟩
    · rintro (rfl | ⟨hold, hne⟩)
      · exact ⟨c, hmem, by simp [hkey]⟩
      · exact ⟨b, hold, by simp [hne]⟩

theorem get?_upsert (t : Table key) (a : α) (k : κ) :
    (t.upsert a).get? k = if key a = k then some a else t.get? k := by
  split
  · rename_i heq
    exact get?_eq_some.mpr ⟨mem_upsert_rows.mpr (.inl rfl), heq⟩
  · rename_i hne
    cases hold : t.get? k with
    | none =>
        rw [get?_eq_none] at hold ⊢
        intro b hb
        rcases mem_upsert_rows.mp hb with rfl | ⟨hmem, -⟩
        · exact hne
        · exact hold b hmem
    | some b =>
        obtain ⟨hmem, rfl⟩ := get?_eq_some.mp hold
        exact get?_eq_some.mpr ⟨mem_upsert_rows.mpr (.inr ⟨hmem, fun heq => hne heq.symm⟩), rfl⟩

/-- Writing a row that is there changes nothing. -/
theorem upsert_eq_self {t : Table key} {a : α} (h : t.get? (key a) = some a) :
    t.upsert a = t := by
  have hsome : t.get? (key a) ≠ none := by simp [h]
  ext1
  rw [upsert, dif_neg hsome, modify_rows]
  refine (List.map_congr_left fun b hb => ?_).trans (List.map_id' t.rows)
  by_cases heq : key b = key a
  · have hsame : b = a := t.eq_of_key_eq hb (get?_eq_some.mp h).1 heq
    simp [hsame]
  · simp [heq]

theorem upsertAll_append (t : Table key) (as bs : List α) :
    t.upsertAll (as ++ bs) = (t.upsertAll as).upsertAll bs :=
  List.foldl_append ..

theorem get?_upsertAll_of_not_mem {as : List α} {k : κ} (h : ∀ a ∈ as, key a ≠ k) (t : Table key) :
    (t.upsertAll as).get? k = t.get? k := by
  induction as generalizing t with
  | nil => rfl
  | cons a as ih =>
      have hrest := ih (fun b hb => h b (List.mem_cons_of_mem _ hb)) (t.upsert a)
      exact hrest.trans ((get?_upsert t a k).trans (if_neg (h a (List.mem_cons_self ..))))

/-- Rows with distinct keys are all there after their upserts. -/
theorem get?_upsertAll_of_mem {as : List α} (hdistinct : (as.map key).Nodup) {a : α}
    (ha : a ∈ as) (t : Table key) : (t.upsertAll as).get? (key a) = some a := by
  induction as generalizing t with
  | nil => cases ha
  | cons b as ih =>
      obtain ⟨hnew, hdistinct⟩ := List.nodup_cons.mp hdistinct
      rcases List.mem_cons.mp ha with rfl | ha
      · have hrest : ∀ c ∈ as, key c ≠ key a :=
          fun c hc heq => hnew (heq ▸ List.mem_map_of_mem hc)
        exact (get?_upsertAll_of_not_mem hrest (t.upsert a)).trans
          ((get?_upsert t a (key a)).trans (if_pos rfl))
      · exact ih hdistinct ha (t.upsert b)

theorem upsertAll_eq_self {t : Table key} {as : List α}
    (h : ∀ a ∈ as, t.get? (key a) = some a) : t.upsertAll as = t := by
  induction as with
  | nil => rfl
  | cons a as ih =>
      show (t.upsert a).upsertAll as = t
      rw [upsert_eq_self (h a (List.mem_cons_self ..))]
      exact ih fun b hb => h b (List.mem_cons_of_mem _ hb)

end Table
