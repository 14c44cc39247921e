/-
# Tables of a relational database

Rows that the database numbers itself, with the constraints that an insert or an update is
held to and what a delete takes along. A schema says which tables there are; what a database
makes of texts and numbers is its dialect. A statement either fails and changes nothing or
counts the rows that it has changed.
-/

import Mathlib.Algebra.Group.Int.Defs
import Mathlib.Data.List.Sort
import Mathlib.Data.Rat.Defs
import Mathlib.Logic.Function.Basic

namespace Tunnara.Sql

inductive SqlValue
  | null
  | integer (n : ℤ)
  | real (q : ℚ)
  | text (s : String)
  /-- Nothing but the length of a blob is ever read. -/
  | blob (length : ℕ)
  deriving DecidableEq

/-- What a column makes of the values written to it. -/
inductive Affinity
  | integer
  | real
  | text

/-- What a database makes of texts and numbers. -/
structure Dialect where
  /-- The number that a text spells. -/
  readNumber : String → Option SqlValue
  /-- `CAST(value AS TEXT)`. -/
  textOf : SqlValue → String
  /-- `LOWER(value)`. -/
  lower : SqlValue → SqlValue
  /-- `value LIKE pattern`, from the pattern and the value. -/
  like : SqlValue → SqlValue → Bool
  /-- `ORDER BY` puts the first value not behind the second. -/
  sorts : SqlValue → SqlValue → Bool

namespace SqlValue

def asInteger : SqlValue → Option ℤ
  | integer n => some n
  | _ => none

def asText : SqlValue → Option String
  | text s => some s
  | _ => none

/-- What a column of this affinity stores. -/
def coerce (dialect : Dialect) : Affinity → SqlValue → SqlValue
  | .text, integer n => text (dialect.textOf (integer n))
  | .text, real q => text (dialect.textOf (real q))
  | .integer, text s => (dialect.readNumber s).getD (text s)
  | .integer, real q => if q.den = 1 then integer q.num else real q
  | .real, integer n => real n
  | .real, text s => (dialect.readNumber s).getD (text s)
  | _, value => value

/-- `COALESCE(value, other)`. -/
def orElse (value other : SqlValue) : SqlValue := if value = null then other else value

end SqlValue

structure Column where
  name : String
  affinity : Affinity
  notNull : Bool
  default : SqlValue

/-- What the delete of a row does to the rows that refer to it. -/
inductive OnDelete
  | cascade
  | setNull
  | restrict
  deriving DecidableEq

/-- A foreign key: the column holds the id of a row of the table. -/
structure Reference (T : Type) where
  column : String
  table : T
  onDelete : OnDelete

/-- The tables of a database. The column `id` numbers the rows of those that are numbered. -/
structure Catalog (T : Type) where
  tables : List T
  name : T → String
  numbered : T → Bool
  columns : T → List Column
  unique : T → List (List String)
  references : T → List (Reference T)

/-- What a statement fails with. -/
inductive Breach
  | notNull (table column : String)
  | unique (table : String) (key : List String)
  | foreignKey
  | full

/-- The text of the error. -/
def Breach.text : Breach → String
  | notNull table column => "NOT NULL constraint failed: " ++ table ++ "." ++ column
  | unique table key =>
    "UNIQUE constraint failed: " ++ ", ".intercalate (key.map fun column => table ++ "." ++ column)
  | foreignKey => "FOREIGN KEY constraint failed"
  | full => "database or disk is full"

abbrev Row := String → SqlValue

structure Database (T : Type) where
  rows : T → List Row
  /-- The last number that was given to a row of the table. -/
  sequence : T → ℤ
  /-- How many rows of the table statements have changed so far. -/
  changes : T → ℕ

namespace Catalog

variable {T : Type} (catalog : Catalog T)

def column? (table : T) (name : String) : Option Column :=
  (catalog.columns table).find? fun column => column.name = name

def columnNames (table : T) : List String := (catalog.columns table).map Column.name

/-- A value as the column stores it; a table has nothing under another name. -/
def stored (dialect : Dialect) (table : T) (name : String) (value : SqlValue) : SqlValue :=
  match catalog.column? table name with
  | none => .null
  | some column => value.coerce dialect column.affinity

/-- The first constraint on the assigned columns that the row breaks next to the others. -/
def breach (table : T) (assigned : String → Bool) (others : List Row) (parents : T → List Row)
    (row : Row) : Option Breach :=
  let empty := (catalog.columns table).find? fun column =>
    column.notNull && assigned column.name && row column.name = .null
  let taken := (catalog.unique table).find? fun key =>
    key.any assigned && others.any fun other =>
      key.all fun name => row name ≠ .null && other name = row name
  let dangling := (catalog.references table).find? fun reference =>
    assigned reference.column && row reference.column ≠ .null &&
      !(parents reference.table).any fun parent => parent "id" = row reference.column
  match empty, taken, dangling with
  | some column, _, _ => some (.notNull (catalog.name table) column.name)
  | none, some key, _ => some (.unique (catalog.name table) key)
  | none, none, some _ => some .foreignKey
  | none, none, none => none

end Catalog

namespace Database

variable {T : Type} [DecidableEq T] (catalog : Catalog T) (dialect : Dialect)

/-- The rows of a table after a statement that has changed so many of them. -/
def write (db : Database T) (table : T) (rows : List Row) (count : ℕ) : Database T :=
  { db with
    rows := Function.update db.rows table rows
    changes := Function.update db.changes table (db.changes table + count) }

/-- The number of the next row. -/
def nextId (db : Database T) (table : T) : ℤ :=
  ((db.rows table).filterMap fun row => (row "id").asInteger).foldl max (db.sequence table) + 1

/-- The row that an insert adds: columns without a value get their default. -/
def newRow (table : T) (id : ℤ) (fields : List (String × SqlValue)) : Row := fun name =>
  if catalog.numbered table && name = "id" then .integer id
  else match catalog.column? table name with
    | none => .null
    | some column => ((fields.lookup name).getD column.default).coerce dialect column.affinity

/-- `INSERT INTO table (…) VALUES (…)`; the number of the new row. -/
def insert (db : Database T) (table : T) (fields : List (String × SqlValue)) :
    Except Breach (ℤ × Database T) :=
  let id := db.nextId table
  let row := newRow catalog dialect table id fields
  if 2 ^ 63 ≤ id then .error .full
  else match catalog.breach table (fun _ => true) (db.rows table) db.rows row with
    | some breach => .error breach
    | none => .ok (id,
        { db.write table (db.rows table ++ [row]) 1 with
          sequence := Function.update db.sequence table id })

/-- A row with new values in some columns. -/
def assign (table : T) (fields : List (String × SqlValue)) (row : Row) : Row := fun name =>
  match fields.lookup name with
  | none => row name
  | some value => catalog.stored dialect table name value

def updated (db : Database T) (table : T) (key : String) (value : SqlValue)
    (fields : List (String × SqlValue)) : List Row :=
  ((db.rows table).filter fun row => row key = value).map (assign catalog dialect table fields)

/-- The first constraint that an update breaks. -/
def updateBreach (db : Database T) (table : T) (key : String) (value : SqlValue)
    (fields : List (String × SqlValue)) : Option Breach :=
  (db.updated catalog dialect table key value fields).findSome?
    (catalog.breach table (fun name => (fields.lookup name).isSome)
      ((db.rows table).filter fun row => row key ≠ value) db.rows)

/-- `UPDATE table SET … WHERE key = value` by a column that tells the rows apart; how many rows
have changed. -/
def update (db : Database T) (table : T) (key : String) (value : SqlValue)
    (fields : List (String × SqlValue)) : Except Breach (ℕ × Database T) :=
  let count := (db.updated catalog dialect table key value fields).length
  match db.updateBreach catalog dialect table key value fields with
  | some breach => .error breach
  | none => .ok (count, db.write table
      ((db.rows table).map fun row =>
        if row key = value then assign catalog dialect table fields row else row) count)

/-- What becomes of the rows of a table when the rows that a key refers to are gone. -/
def follow (gone : SqlValue → Bool) (rows : List Row) (reference : Reference T) : List Row :=
  match reference.onDelete with
  | .cascade => rows.filter fun row => !gone (row reference.column)
  | .setNull => rows.map fun row =>
    if gone (row reference.column) then Function.update row reference.column .null else row
  | .restrict => rows

def keysTo (table child : T) : List (Reference T) :=
  (catalog.references child).filter fun reference => reference.table = table

/-- `DELETE FROM table WHERE …`; how many rows are gone. The rows that go along have none that
refer to them. -/
def delete (db : Database T) (table : T) (hit : Row → Bool) : Except Breach (ℕ × Database T) :=
  let removed := (db.rows table).filter hit
  let gone := fun value => removed.any fun row => row "id" = value
  if catalog.tables.any fun child => (keysTo catalog table child).any fun reference =>
      reference.onDelete = .restrict && (db.rows child).any fun row => gone (row reference.column)
  then .error .foreignKey
  else .ok (removed.length,
    { db with
      rows := fun child =>
        if child = table then (db.rows table).filter fun row => !hit row
        else (keysTo catalog table child).foldl (follow gone) (db.rows child)
      changes := Function.update db.changes table (db.changes table + removed.length) })

/-- `SELECT … FROM table WHERE … ORDER BY column`. -/
def sorted (column : String) (rows : List Row) : List Row :=
  rows.insertionSort fun row other => dialect.sorts (row column) (other column)

/-- `column LIKE pattern` for one of the columns. -/
def anyLike (columns : List String) (pattern : String) (row : Row) : Bool :=
  columns.any fun column => dialect.like (.text pattern) (row column)

end Database

namespace Database

variable {T : Type} [DecidableEq T] {catalog : Catalog T} {dialect : Dialect}

theorem changes_insert {db after : Database T} {table : T} {fields : List (String × SqlValue)}
    {id : ℤ} (h : db.insert catalog dialect table fields = .ok (id, after)) :
    after.changes = Function.update db.changes table (db.changes table + 1) := by
  unfold insert at h
  dsimp only at h
  split at h
  · cases h
  · split at h
    · cases h
    · cases h
      rfl

theorem changes_delete {db after : Database T} {table : T} {hit : Row → Bool} {count : ℕ}
    (h : db.delete catalog table hit = .ok (count, after)) :
    after.changes = Function.update db.changes table (db.changes table + count) := by
  unfold delete at h
  dsimp only at h
  split at h
  · cases h
  · cases h
    rfl

end Database

end Tunnara.Sql
