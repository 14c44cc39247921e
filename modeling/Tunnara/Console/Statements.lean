/-
# What statements leave

A statement on the file succeeds exactly when no constraint is in the way, and then its rows and
sequences are known.
-/

import Tunnara.Console.Demands
import Tunnara.Sql.Sound

namespace Tunnara.Console

open Sql Attempt AppCommands

/-- The file has these rows and sequences. -/
def Leaves (rows : Table → List Row) (sequence : Table → ℤ) (next : Store) : Prop :=
  (next .file).rows = rows ∧ (next .file).sequence = sequence

variable {host : Host} {s : Store} {table : Table} {fields : List (String × SqlValue)}
  {label : String}

def reassigned (host : Host) (table : Table) (id : ℤ) (fields : List (String × SqlValue))
    (rows : List Row) : List Row :=
  rows.map fun row => if row "id" = .integer id then
    Database.assign catalog (host.dialect .file) table fields row else row

theorem ends_updateRows {id : ℤ} :
    Ends ((s .file).updateBreach catalog (host.dialect .file) table "id" (.integer id) fields = none)
      (fun _ => Leaves (Function.update (s .file).rows table
        (reassigned host table id fields ((s .file).rows table))) (s .file).sequence)
      (updateRows host .file table "id" (.integer id) fields label) s := by
  cases hbreach : (s .file).updateBreach catalog (host.dialect .file) table "id" (.integer id)
      fields with
  | none =>
    refine ends_of_ok (exec_updateRows hbreach) rfl ⟨?_, ?_⟩
    · rw [Function.update_self]
      rfl
    · rw [Function.update_self]
      rfl
  | some breach => exact ends_of_error (exec_updateRows_of_breach hbreach) nofun

theorem ends_insertRow_nextId :
    Ends ((s .file).nextId table < 2 ^ 63 ∧
        catalog.breach table (fun _ => true) ((s .file).rows table) (s .file).rows
          (Database.newRow catalog (host.dialect .file) table ((s .file).nextId table) fields) = none)
      (fun id next => id = (s .file).nextId table ∧
        Leaves (Function.update (s .file).rows table ((s .file).rows table ++
            [Database.newRow catalog (host.dialect .file) table ((s .file).nextId table) fields]))
          (Function.update (s .file).sequence table ((s .file).nextId table)) next)
      (insertRow host .file table fields label) s := by
  by_cases hfits : (s .file).nextId table < 2 ^ 63 ∧
      catalog.breach table (fun _ => true) ((s .file).rows table) (s .file).rows
        (Database.newRow catalog (host.dialect .file) table ((s .file).nextId table) fields) = none
  · have hexec := exec_statement .file label
      (fun db => db.insert (catalogAt .file) (host.dialect .file) table fields) s
    unfold Database.insert at hexec
    dsimp only [catalogAt] at hexec
    rw [if_neg (Int.not_le.2 hfits.1), hfits.2] at hexec
    refine ends_of_ok hexec hfits ⟨rfl, ?_, ?_⟩
    · rw [Function.update_self]
      rfl
    · rw [Function.update_self]
  · obtain ⟨error, hexec⟩ := @exec_insertRow_of_blocked host s table fields label hfits
    exact ends_of_error hexec hfits

theorem ends_deleteRows (hempresas : table ≠ .empresas)
    (hkeys : ∀ child, Database.keysTo catalog table child = []) {hit : Row → Bool} :
    Ends True (fun _ => Leaves (Function.update (s .file).rows table
        (((s .file).rows table).filter fun row => !hit row)) (s .file).sequence)
      (deleteRows .file table hit label) s := by
  obtain ⟨after, hdelete⟩ := delete_eq hempresas (s .file) hit
  have hexec := exec_statement .file label
    (fun db => db.delete (catalogAt .file) table hit) s
  dsimp only [catalogAt] at hexec
  rw [hdelete] at hexec
  refine ends_of_ok hexec trivial ?_
  unfold Leaves
  rw [Function.update_self]
  unfold Database.delete at hdelete
  dsimp only at hdelete
  split at hdelete
  · cases hdelete
  · cases hdelete
    refine ⟨funext fun child => ?_, rfl⟩
    dsimp only
    by_cases hchild : child = table
    · subst hchild
      rw [if_pos rfl, Function.update_self]
    · rw [if_neg hchild, Function.update_of_ne hchild, hkeys, List.foldl_nil]

end Tunnara.Console
