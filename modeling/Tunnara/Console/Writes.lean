/-
# What the commands write

Statements count the rows that they change and never uncount any, so what the first statement of
a command has changed still counts at its end. Asking for a session touches the sessions only.
-/

import Tunnara.Console.Dispatch

namespace Tunnara.Console

open Sql Attempt AppCommands

variable {host : Host} {α β : Type} {s : Store}

variable (place : Place)

theorem exec_statement (label : String) (run : Database Table → Except Breach (α × Database Table))
    (s : Store) :
    exec (statement place label run) s =
      match run (s place) with
      | .error breach => (.error (label ++ ": " ++ breach.text), s)
      | .ok (a, after) => (.ok a, Function.update s place after) := by
  unfold statement
  rw [exec_bind, exec_get]
  dsimp only
  cases run (s place) with
  | error breach | ok result => rfl

theorem exec_ofExcept (result : Except String α) (s : Store) :
    exec (ofExcept result) s = (result, s) := rfl

theorem exec_tableRows (table : Table) (s : Store) :
    exec (tableRows place table) s = (.ok ((s place).rows table), s) := rfl

/-- Nothing is uncounted. -/
def Grows (m : Action α) : Prop :=
  ∀ s place table, (s place).changes table ≤ ((exec m s).2 place).changes table

theorem grows_pure {a : α} : Grows (pure a : Action α) := fun _ _ _ => le_rfl

theorem grows_throw {error : String} : Grows (throw error : Action α) := fun _ _ _ => le_rfl

variable {table : Table}

theorem grows_tableRows : Grows (tableRows place table) :=
  fun _ _ _ => le_rfl

variable {m : Action α}

theorem Grows.bind {f : α → Action β} (hm : Grows m) (hf : ∀ a, Grows (f a)) : Grows (m >>= f) := by
  intro s place table
  have hfirst := hm s place table
  rw [exec_bind]
  cases hexec : exec m s with
  | mk result next =>
    rw [hexec] at hfirst
    cases result with
    | ok a => exact hfirst.trans (hf a next place table)
    | error error => exact hfirst

theorem Grows.forM {f : β → Action PUnit} (hf : ∀ item, Grows (f item)) (items : List β) :
    Grows (items.forM f) := by
  induction items with
  | nil => exact grows_pure
  | cons item items ih => exact (hf item).bind fun _ => ih

variable {label : String} {fields : List (String × SqlValue)} {id : ℤ}

theorem grows_statement {place : Place} {run : Database Table → Except Breach (α × Database Table)}
    (h : ∀ db a after, run db = .ok (a, after) → ∀ table, db.changes table ≤ after.changes table) :
    Grows (statement place label run) := by
  intro s at_ table
  rw [exec_statement]
  split
  · exact le_rfl
  · rename_i a after hrun
    dsimp only
    by_cases hplace : at_ = place
    · subst hplace
      rw [Function.update_self]
      exact h _ a after hrun table
    · rw [Function.update_of_ne hplace]

theorem le_update {changes : Table → ℕ} {count : ℕ} {other : Table} :
    changes other ≤ Function.update changes table (changes table + count) other := by
  by_cases h : other = table
  · subst h
    rw [Function.update_self]
    exact Nat.le_add_right _ _
  · rw [Function.update_of_ne h]

theorem grows_insertRow {fields : List (String × SqlValue)} :
    Grows (insertRow host place table fields label) :=
  grows_statement fun db id after h other => by
    rw [Database.changes_insert h]
    exact le_update

theorem grows_deleteRows {hit : Row → Bool} : Grows (deleteRows place table hit label) :=
  grows_statement fun db count after h other => by
    rw [Database.changes_delete h]
    exact le_update

theorem grows_insertEach {fields : β → List (String × SqlValue)} {items : List β} :
    Grows (items.forM fun item => do
      let _ ← insertRow host place table (fields item) label) :=
  Grows.forM (fun _ => (grows_insertRow _).bind fun _ => grows_pure) items

/-- Nothing is written. -/
def Reads (m : Action α) : Prop := ∀ s, (exec m s).2 = s

theorem reads_pure (a : α) : Reads (pure a : Action α) := fun _ => rfl

theorem reads_throw {error : String} : Reads (throw error : Action α) := fun _ => rfl

theorem reads_ofExcept {result : Except String α} : Reads (ofExcept result) := fun _ => rfl

theorem reads_get : Reads (get : Action Store) := fun _ => rfl

theorem Reads.bind {f : α → Action β} (hm : Reads m) (hf : ∀ a, Reads (f a)) : Reads (m >>= f) := by
  intro s
  have hfirst := hm s
  rw [exec_bind]
  cases hexec : exec m s with
  | mk result next =>
    rw [hexec] at hfirst
    cases result with
    | ok a => exact (hf a next).trans hfirst
    | error error => exact hfirst

theorem reads_buildAuthUser (userId : ℤ) : Reads (buildAuthUser host userId) := by
  refine reads_get.bind fun store => ?_
  dsimp only
  split
  · exact reads_throw
  · refine reads_ofExcept.bind fun base => ?_
    split
    · exact reads_throw
    · refine reads_ofExcept.bind fun profiles => ?_
      refine reads_ofExcept.bind fun companies => ?_
      split
      · exact (reads_pure _).bind fun _ => reads_pure _
      · exact reads_ofExcept.bind fun _ => (reads_pure _).bind fun _ => reads_pure _

theorem delete_eq (htable : table ≠ .empresas) (db : Database Table) (hit : Row → Bool) :
    ∃ after, db.delete catalog table hit =
      .ok (((db.rows table).filter hit).length, after) := by
  unfold Database.delete
  rw [if_neg]
  · exact ⟨_, rfl⟩
  · intro hrestrict
    obtain ⟨child, -, hchild⟩ := List.any_eq_true.1 hrestrict
    obtain ⟨reference, hreference, hkept⟩ := List.any_eq_true.1 hchild
    obtain ⟨hmem, htarget⟩ := List.mem_filter.1 hreference
    rw [Bool.and_eq_true] at hkept
    have honDelete := of_decide_eq_true hkept.1
    have htable' := of_decide_eq_true htarget
    subst htable'
    revert htable honDelete
    cases child <;> simp [catalog, Table.references] at hmem <;>
      rcases hmem with rfl | rfl <;> decide

/-- The command changes a row of a table other than that of the sessions. -/
def Touches (m : Action α) (s : Store) : Prop :=
  ∃ place table, table ≠ .userSessions ∧
    (s place).changes table < ((exec m s).2 place).changes table

theorem Touches.bind {f : α → Action β} (hm : Touches m s) (hf : ∀ a, Grows (f a)) :
    Touches (m >>= f) s := by
  obtain ⟨place, table, htable, hlt⟩ := hm
  refine ⟨place, table, htable, ?_⟩
  rw [exec_bind]
  cases hexec : exec m s with
  | mk result next =>
    rw [hexec] at hlt
    cases result with
    | ok a => exact hlt.trans_le (hf a next place table)
    | error error => exact hlt

theorem not_touches (h : ∀ place, ((exec m s).2 place).changes = (s place).changes) :
    ¬ Touches m s := by
  rintro ⟨place, table, -, hlt⟩
  rw [h place] at hlt
  exact lt_irrefl _ hlt

/-- A row under this id. -/
def Present (table : Table) (id : ℤ) (s : Store) : Prop :=
  ∃ row ∈ (s .file).rows table, row "id" = .integer id

theorem length_pos_of_hit {rows : List Row} {hit : Row → Bool} :
    0 < (rows.filter hit).length ↔ ∃ row ∈ rows, hit row = true := by
  rw [List.length_pos_iff_exists_mem]
  exact exists_congr fun row => List.mem_filter

theorem touches_delete (htable : table ≠ .empresas) (hsessions : table ≠ .userSessions)
    (hit : Row → Bool) (label : String) :
    Touches (deleteRows .file table hit label) s ↔
      ∃ row ∈ (s .file).rows table, hit row = true := by
  obtain ⟨after, hdelete⟩ := delete_eq htable (s .file) hit
  have hexec : exec (deleteRows .file table hit label) s =
      (.ok (((s .file).rows table).filter hit).length, Function.update s .file after) := by
    have hrun : (s .file).delete (catalogAt .file) table hit = .ok (_, after) := hdelete
    unfold deleteRows
    rw [exec_statement, hrun]
  have hchanges := Database.changes_delete hdelete
  rw [← length_pos_of_hit]
  constructor
  · rintro ⟨place, other, -, hlt⟩
    rw [hexec] at hlt
    by_contra hnone
    rw [Nat.pos_iff_ne_zero, not_not] at hnone
    cases place with
    | file =>
      dsimp only at hlt
      rw [Function.update_self, hchanges, hnone, Nat.add_zero, Function.update_eq_self] at hlt
      exact lt_irrefl _ hlt
    | server =>
      dsimp only at hlt
      rw [Function.update_of_ne (by decide)] at hlt
      exact lt_irrefl _ hlt
  · intro hpos
    refine ⟨.file, table, hsessions, ?_⟩
    rw [hexec]
    dsimp only
    rw [Function.update_self, hchanges, Function.update_self]
    exact Nat.lt_add_of_pos_right hpos

/-- The row that a save writes: its columns, and whether a constraint is in the way. -/
def Writable (host : Host) (table : Table) (payload : List (String × Value)) (s : Store) : Prop :=
  let fields := recordFields host table payload
  fields ≠ [] ∧
    match recordId payload with
    | some id => Present table id s ∧ (s .file).updateBreach catalog (host.dialect .file) table "id"
        (.integer id) fields = none
    | none => (s .file).nextId table < 2 ^ 63 ∧ catalog.breach table (fun _ => true)
        ((s .file).rows table) (s .file).rows (Database.newRow catalog (host.dialect .file) table
          ((s .file).nextId table) fields) = none

theorem touches_insertRow (htable : table ≠ .userSessions) (hroom : (s .file).nextId table < 2 ^ 63)
    (hbreach : catalog.breach table (fun _ => true) ((s .file).rows table) (s .file).rows
      (Database.newRow catalog (host.dialect .file) table ((s .file).nextId table) fields) = none) :
    Touches (insertRow host .file table fields label) s := by
  refine ⟨.file, table, htable, ?_⟩
  have hinsert : ∃ after, (s .file).insert (catalogAt .file) (host.dialect .file) table fields =
      .ok ((s .file).nextId table, after) := by
    unfold Database.insert
    dsimp only [catalogAt]
    rw [if_neg (Int.not_le.2 hroom), hbreach]
    exact ⟨_, rfl⟩
  obtain ⟨after, hrun⟩ := hinsert
  unfold insertRow
  rw [exec_statement, hrun]
  dsimp only
  rw [Function.update_self, Database.changes_insert hrun, Function.update_self]
  exact Nat.lt_add_one _

theorem exec_updateRows (hbreach : (s .file).updateBreach catalog (host.dialect .file) table "id"
      (.integer id) fields = none) :
    exec (updateRows host .file table "id" (.integer id) fields label) s =
      (.ok ((s .file).updated catalog (host.dialect .file) table "id" (.integer id) fields).length,
        Function.update s .file ((s .file).write table
          (((s .file).rows table).map fun row => if row "id" = .integer id then
            Database.assign catalog (host.dialect .file) table fields row else row)
          ((s .file).updated catalog (host.dialect .file) table "id" (.integer id) fields).length)) := by
  unfold updateRows
  rw [exec_statement]
  unfold Database.update
  dsimp only [catalogAt]
  rw [hbreach]

theorem length_updated_pos :
    0 < ((s .file).updated catalog (host.dialect .file) table "id" (.integer id) fields).length ↔
      Present table id s := by
  unfold Database.updated
  rw [List.length_map, length_pos_of_hit]
  exact exists_congr fun row => and_congr_right fun _ => decide_eq_true_iff

theorem touches_updateRows (htable : table ≠ .userSessions) (hpresent : Present table id s)
    (hbreach : (s .file).updateBreach catalog (host.dialect .file) table "id" (.integer id)
      fields = none) : Touches (updateRows host .file table "id" (.integer id) fields label) s := by
  refine ⟨.file, table, htable, ?_⟩
  rw [exec_updateRows hbreach]
  dsimp only
  rw [Function.update_self]
  unfold Database.write
  dsimp only
  rw [Function.update_self]
  exact Nat.lt_add_of_pos_right (length_updated_pos.2 hpresent)

theorem touches_writeRecord (htable : table ≠ .userSessions) {payload : List (String × Value)}
    (h : Writable host table payload s) : Touches (writeRecord host table payload) s := by
  obtain ⟨hfields, hwrite⟩ := h
  unfold writeRecord
  rw [if_neg hfields]
  cases hid : recordId payload with
  | some id =>
    rw [hid] at hwrite
    exact (touches_updateRows htable hwrite.1 hwrite.2).bind fun _ => grows_pure
  | none =>
    rw [hid] at hwrite
    exact touches_insertRow htable hwrite.1 hwrite.2

theorem exec_insertRow_of_blocked {table : Table} {fields : List (String × SqlValue)}
    {label : String} (h : ¬ ((s .file).nextId table < 2 ^ 63 ∧
      catalog.breach table (fun _ => true) ((s .file).rows table) (s .file).rows
        (Database.newRow catalog (host.dialect .file) table ((s .file).nextId table) fields) =
          none)) :
    ∃ error, exec (insertRow host .file table fields label) s = (.error error, s) := by
  unfold insertRow
  rw [exec_statement]
  unfold Database.insert
  dsimp only [catalogAt]
  by_cases hroom : (2 : ℤ) ^ 63 ≤ (s .file).nextId table
  · rw [if_pos hroom]
    exact ⟨_, rfl⟩
  · rw [if_neg hroom]
    cases hbreach : catalog.breach table (fun _ => true) ((s .file).rows table) (s .file).rows
        (Database.newRow catalog (host.dialect .file) table ((s .file).nextId table) fields) with
    | none => exact absurd ⟨Int.not_le.1 hroom, hbreach⟩ h
    | some breach => exact ⟨_, rfl⟩

theorem exec_updateRows_of_breach {breach : Breach}
    (h : (s .file).updateBreach catalog (host.dialect .file) table "id" (.integer id) fields =
      some breach) :
    exec (updateRows host .file table "id" (.integer id) fields label) s =
      (.error (label ++ ": " ++ breach.text), s) := by
  unfold updateRows
  rw [exec_statement]
  unfold Database.update
  dsimp only [catalogAt]
  rw [h]

theorem exec_updateRows_of_absent (hpresent : ¬ Present table id s)
    (hbreach : (s .file).updateBreach catalog (host.dialect .file) table "id" (.integer id)
      fields = none) :
    exec (updateRows host .file table "id" (.integer id) fields label) s = (.ok 0, s) := by
  have hcount : ((s .file).updated catalog (host.dialect .file) table "id" (.integer id)
      fields).length = 0 :=
    Nat.eq_zero_of_not_pos fun hpos => hpresent (length_updated_pos.1 hpos)
  have hrows : ((s .file).rows table).map (fun row => if row "id" = .integer id then
      Database.assign catalog (host.dialect .file) table fields row else row) =
      (s .file).rows table := by
    refine (List.map_congr_left fun row hmem => ?_).trans (List.map_id _)
    rw [if_neg fun hid => hpresent ⟨row, hmem, hid⟩]
    rfl
  rw [exec_updateRows hbreach, hcount, hrows]
  unfold Database.write
  rw [Nat.add_zero, Function.update_eq_self, Function.update_eq_self]
  exact congrArg (Prod.mk _) (Function.update_eq_self _ _)

theorem exec_tableRecord_of_absent (h : ¬ Present table id s) :
    exec (tableRecord table id) s = (.error "Registro não encontrado.", s) := by
  have hnone : ((s .file).rows table).find? (fun row => row "id" = .integer id) = none := by
    rw [List.find?_eq_none]
    intro row hmem hid
    exact h ⟨row, hmem, of_decide_eq_true hid⟩
  unfold tableRecord
  rw [exec_bind, exec_tableRows]
  dsimp only
  rw [hnone]
  rfl

theorem exec_saveRecord_of_not_writable {payload : List (String × Value)}
    (h : ¬ Writable host table payload s) :
    ∃ error, exec (saveRecord host table payload) s = (.error error, s) := by
  unfold saveRecord writeRecord
  by_cases hfields : recordFields host table payload = []
  · rw [if_pos hfields]
    exact ⟨_, rfl⟩
  · rw [if_neg hfields]
    have hblocked := fun hwrite => h ⟨hfields, hwrite⟩
    cases hid : recordId payload with
    | none =>
      rw [hid] at hblocked
      obtain ⟨error, hexec⟩ := exec_insertRow_of_blocked hblocked
      rw [exec_bind, hexec]
      exact ⟨_, rfl⟩
    | some id =>
      rw [hid] at hblocked
      rw [exec_bind, exec_bind]
      cases hbreach : (s .file).updateBreach catalog (host.dialect .file) table "id"
          (.integer id) (recordFields host table payload) with
      | some breach =>
        rw [exec_updateRows_of_breach hbreach]
        exact ⟨_, rfl⟩
      | none =>
        have habsent : ¬ Present table id s := fun hpresent => hblocked ⟨hpresent, hbreach⟩
        rw [exec_updateRows_of_absent habsent hbreach]
        exact ⟨_, exec_tableRecord_of_absent habsent⟩

/-- The same but for the sessions. -/
def Elsewhere (s s' : Store) : Prop :=
  ∀ place table, table ≠ .userSessions →
    (s' place).rows table = (s place).rows table ∧
      (s' place).changes table = (s place).changes table

theorem Elsewhere.refl (s : Store) : Elsewhere s s := fun _ _ _ => ⟨rfl, rfl⟩

theorem elsewhere_noteActivity (token : String) (label : String) (s : Store) :
    Elsewhere s (exec (updateRows host .file .userSessions "session_token" (.text token)
      [("last_activity_at", .text host.now)] label) s).2 := by
  unfold updateRows
  rw [exec_statement]
  split
  · exact Elsewhere.refl s
  · rename_i count after hrun
    intro place table htable
    dsimp only
    by_cases hplace : place = .file
    · subst hplace
      rw [Function.update_self]
      unfold Database.update at hrun
      split at hrun
      · cases hrun
      · cases hrun
        exact ⟨Function.update_of_ne htable _ _, Function.update_of_ne htable _ _⟩
    · rw [Function.update_of_ne hplace]
      exact ⟨rfl, rfl⟩

theorem elsewhere_requireSession {token : String} {s : Store} :
    Elsewhere s (exec (requireSessionByToken host token) s).2 := by
  unfold requireSessionByToken
  dsimp only
  split
  · exact Elsewhere.refl s
  · rw [exec_bind, exec_get]
    dsimp only
    split
    · exact Elsewhere.refl s
    · rename_i session user hsession
      rw [exec_bind, exec_ofExcept]
      cases readSession session user with
      | error error => exact Elsewhere.refl s
      | ok read =>
        dsimp only
        split
        · exact Elsewhere.refl s
        · have hnote := @elsewhere_noteActivity host (trimText token)
            "Falha ao atualizar atividade da sessão" s
          rw [exec_bind]
          generalize exec (updateRows host .file .userSessions "session_token" _ _ _) s = run
            at hnote ⊢
          cases run with
          | mk result next => cases result <;> exact hnote

end Tunnara.Console
