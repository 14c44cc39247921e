/-
# Numbers and constraints

The next number is the number of no row, and a statement that breaks no constraint ends well.
-/

import Tunnara.Sql.Database

namespace Tunnara.Sql

variable {T : Type}

theorem le_foldl_max (m : ℤ) (ids : List ℤ) : m ≤ ids.foldl max m := by
  induction ids generalizing m with
  | nil => exact le_rfl
  | cons k ids ih => exact (le_max_left m k).trans (ih (max m k))

theorem le_foldl_max_of_mem {ids : List ℤ} {n : ℤ} (m : ℤ) (h : n ∈ ids) : n ≤ ids.foldl max m := by
  induction ids generalizing m with
  | nil => cases h
  | cons k ids ih =>
    rcases List.mem_cons.1 h with rfl | h
    · exact (le_max_right m n).trans (le_foldl_max (max m n) ids)
    · exact ih (max m k) h

variable {db : Database T} {table : T}

theorem id_ne_nextId {row : Row} (h : row ∈ db.rows table) :
    row "id" ≠ .integer (db.nextId table) := by
  intro hid
  have hmem : db.nextId table ∈ (db.rows table).filterMap fun row => (row "id").asInteger :=
    List.mem_filterMap.2 ⟨row, h, by rw [hid]; rfl⟩
  exact absurd (le_foldl_max_of_mem (db.sequence table) hmem) (Int.not_le.2 (Int.lt_succ _))

theorem breach_eq_none {catalog : Catalog T} {assigned : String → Bool} {others : List Row}
    {parents : T → List Row} {row : Row} :
    catalog.breach table assigned others parents row = none ↔
      (∀ column ∈ catalog.columns table, column.notNull = true → assigned column.name = true →
        row column.name ≠ .null) ∧
      (∀ key ∈ catalog.unique table, key.any assigned = true → ∀ other ∈ others,
        ¬ ∀ name ∈ key, row name ≠ .null ∧ other name = row name) ∧
      ∀ reference ∈ catalog.references table, assigned reference.column = true →
        row reference.column ≠ .null →
          ∃ parent ∈ parents reference.table, parent "id" = row reference.column := by
  have hempty : (catalog.columns table).find? (fun column =>
      column.notNull && assigned column.name && row column.name = .null) = none ↔
      ∀ column ∈ catalog.columns table, column.notNull = true → assigned column.name = true →
        row column.name ≠ .null := by
    simp only [List.find?_eq_none, Bool.and_eq_true, decide_eq_true_eq, not_and, and_imp, ne_eq]
  have htaken : (catalog.unique table).find? (fun key =>
      key.any assigned && others.any fun other => key.all fun name =>
        row name ≠ .null && other name = row name) = none ↔
      ∀ key ∈ catalog.unique table, key.any assigned = true → ∀ other ∈ others,
        ¬ ∀ name ∈ key, row name ≠ .null ∧ other name = row name := by
    simp only [List.find?_eq_none, Bool.and_eq_true, List.any_eq_true (p := fun other : Row => _),
      List.all_eq_true, decide_eq_true_eq, not_and, not_exists]
  have hdangling : (catalog.references table).find? (fun reference =>
      assigned reference.column && row reference.column ≠ .null &&
        !(parents reference.table).any fun parent => parent "id" = row reference.column) = none ↔
      ∀ reference ∈ catalog.references table, assigned reference.column = true →
        row reference.column ≠ .null →
          ∃ parent ∈ parents reference.table, parent "id" = row reference.column := by
    simp only [List.find?_eq_none, Bool.and_eq_true, decide_eq_true_eq, Bool.not_eq_true',
      Bool.not_eq_false, List.any_eq_true, not_and, and_imp]
  rw [← hempty, ← htaken, ← hdangling]
  unfold Catalog.breach
  generalize List.find? _ (catalog.columns table) = empty
  generalize List.find? _ (catalog.unique table) = taken
  generalize List.find? _ (catalog.references table) = dangling
  cases empty <;> cases taken <;> cases dangling <;> simp

end Tunnara.Sql
