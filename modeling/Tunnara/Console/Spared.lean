/-
# What commands leave alone

A command that fails has kept the writes that it made before. What it does to the rows of one
table, however it ends, is what its statements on that table do; statements on other tables
spare it, as long as no key of it follows them.
-/

import Tunnara.Console.Access
import Tunnara.Console.Writes

namespace Tunnara.Console

open Sql Attempt

def rowsOf (table : Table) (s : Store) : List Row := (s .file).rows table

/-- However it ends, the rows of the table are those from before. -/
def Spares {α : Type} (table : Table) (m : Action α) : Prop :=
  Changes (fun s next => rowsOf table next = rowsOf table s) m

variable {host : Host} {α β : Type} {table other : Table}

theorem rowsOf_trans {a b c : Store} (hfirst : rowsOf table b = rowsOf table a)
    (hsecond : rowsOf table c = rowsOf table b) : rowsOf table c = rowsOf table a :=
  hsecond.trans hfirst

theorem spares_pure {a : α} : Spares table (pure a : Action α) := fun _ => rfl

theorem spares_throw {error : String} : Spares table (throw error : Action α) := fun _ => rfl

theorem spares_get : Spares table (get : Action Store) := fun _ => rfl

theorem spares_ofExcept {result : Except String α} : Spares table (ofExcept result) := fun _ => rfl

theorem spares_tableRows {name : Table} : Spares table (tableRows .file name) := fun _ => rfl

theorem Spares.bind {m : Action α} {f : α → Action β} (hm : Spares table m)
    (hf : ∀ a, Spares table (f a)) : Spares table (m >>= f) :=
  Changes.bind hm hf rowsOf_trans

theorem Spares.forM {f : β → Action PUnit} (hf : ∀ item, Spares table (f item))
    (items : List β) : Spares table (items.forM f) :=
  Changes.forM hf items (fun _ => rfl) rowsOf_trans

theorem Spares.tryCatch {m : Action α} {handler : String → Action α} (hm : Spares table m)
    (hhandler : ∀ error, Spares table (handler error)) : Spares table (tryCatch m handler) :=
  Changes.tryCatch hm hhandler rowsOf_trans

variable {label : String}

theorem spares_statement {run : Database Table → Except Breach (α × Database Table)}
    (h : ∀ db a after, run db = .ok (a, after) → after.rows table = db.rows table) :
    Spares table (statement .file label run) := by
  intro s
  rw [exec_statement]
  cases hrun : run (s .file) with
  | error breach => rfl
  | ok result =>
    obtain ⟨a, after⟩ := result
    unfold rowsOf
    dsimp only
    rw [Function.update_self]
    exact h _ _ _ hrun

theorem spares_insertRow (h : table ≠ other) {fields : List (String × SqlValue)} :
    Spares table (insertRow host .file other fields label) := by
  refine spares_statement fun db id after hrun => ?_
  unfold Database.insert at hrun
  dsimp only at hrun
  split at hrun
  · cases hrun
  · split at hrun
    · cases hrun
    · cases hrun
      exact Function.update_of_ne h _ _

theorem spares_updateRows (h : table ≠ other) {key : String} {value : SqlValue}
    {fields : List (String × SqlValue)} :
    Spares table (updateRows host .file other key value fields label) := by
  refine spares_statement fun db count after hrun => ?_
  unfold Database.update at hrun
  split at hrun
  · cases hrun
  · cases hrun
    exact Function.update_of_ne h _ _

variable {hit : Row → Bool}

theorem spares_deleteRows (h : table ≠ other) (hkeys : Database.keysTo catalog other table = []) :
    Spares table (deleteRows .file other hit label) := by
  refine spares_statement fun db count after hrun => ?_
  unfold Database.delete at hrun
  dsimp only at hrun
  split at hrun
  · cases hrun
  · cases hrun
    dsimp only [catalogAt]
    rw [if_neg h, hkeys]
    rfl

/-- The rows are those from before, or those without the ones that the test hits. -/
def Drops (table : Table) (hit : Row → Bool) (s next : Store) : Prop :=
  rowsOf table next = rowsOf table s ∨
    rowsOf table next = (rowsOf table s).filter fun row => !hit row

theorem Drops.trans {a b c : Store} (hfirst : Drops table hit a b)
    (hsecond : Drops table hit b c) : Drops table hit a c := by
  unfold Drops at *
  rcases hfirst with hfirst | hfirst
  · rw [← hfirst]
    exact hsecond
  · rw [hfirst, List.filter_filter] at hsecond
    simp only [Bool.and_self, or_self] at hsecond
    exact .inr hsecond

theorem Spares.drops {m : Action α} (h : Spares table m) :
    Changes (Drops table hit) m := fun s => .inl (h s)

theorem drops_deleteRows : Changes (Drops table hit) (deleteRows .file table hit label) := by
  intro s
  unfold deleteRows
  rw [exec_statement]
  split
  · exact .inl rfl
  · rename_i count after hrun
    unfold Database.delete at hrun
    dsimp only at hrun
    split at hrun
    · cases hrun
    · cases hrun
      right
      unfold rowsOf
      dsimp only
      rw [Function.update_self]
      exact if_pos rfl

theorem spares_requireSession (h : table ≠ .userSessions) {token : String} :
    Spares table (requireSessionByToken host token) :=
  fun _ => (elsewhere_requireSession .file table h).1

theorem spares_ensureMaster (h : table ≠ .userSessions) {token : String} :
    Spares table (Access.ensureMaster host token) := by
  refine (spares_requireSession h).bind fun identity => ?_
  split
  · exact spares_pure
  · exact spares_throw

theorem spares_enqueueSync (h : table ≠ .syncQueue) {entity action : String} {id : Option ℤ}
    {payload : Value} : Spares table (enqueueSync host entity action id payload) :=
  (spares_insertRow h).bind fun _ => spares_pure

theorem spares_writeAudit (h : table ≠ .auditLogs) {entity action : String} {id : Option ℤ}
    {payload : Value} : Spares table (writeAudit host entity action id payload) :=
  (spares_insertRow h).bind fun _ => spares_pure

theorem spares_noteAppLog (h : table ≠ .appLogs) {input : AppLogInput} :
    Spares table (noteAppLog host input) := by
  exact ((spares_insertRow h).bind fun _ => spares_ofExcept).tryCatch fun _ => spares_pure

theorem spares_loadLoginMinLength : Spares table Access.loadLoginMinLength :=
  spares_get.bind fun _ => spares_ofExcept.bind fun _ => spares_pure

theorem spares_linkUser (h : table ≠ other) {targetField : String} {userId : ℤ} {ids : List ℤ} :
    Spares table (Access.linkUser host other targetField label userId ids) :=
  Spares.forM (fun _ => (spares_insertRow h).bind fun _ => spares_pure) ids

theorem spares_userRecord {id : ℤ} : Spares table (Access.userRecord host id) := by
  refine spares_get.bind fun _ => ?_
  split
  · exact spares_throw
  · refine (spares_tableRows.bind fun _ => spares_ofExcept).bind fun _ => ?_
    refine (spares_tableRows.bind fun _ => spares_ofExcept).bind fun _ => ?_
    exact spares_pure

theorem spares_userGet (h : table ≠ .userSessions) {token : String} {id : ℤ} :
    Spares table (Access.userGet host token id) :=
  (spares_requireSession h).bind fun _ => spares_userRecord

end Tunnara.Console
