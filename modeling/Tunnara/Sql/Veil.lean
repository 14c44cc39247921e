/-
# Columns that do not show

Some columns are hidden, and their values may be exchanged for others that are taken to be the
same. Two databases that differ in nothing else give the same answers to every statement and
query that neither reads nor keys on a hidden column, and stay alike.
-/

import Tunnara.Data.SideBySide
import Tunnara.Sql.Database

namespace Tunnara.Sql

/-- Which columns are hidden, and what their values may be exchanged for. -/
structure Veil (T : Type) where
  hidden : T → String → Bool
  same : SqlValue → SqlValue → Prop
  refl : ∀ value, same value value
  null : ∀ value other, same value other → (value = .null ↔ other = .null)

namespace Veil

variable {T : Type} (veil : Veil T)

/-- Two values of a column. -/
def Values (table : T) (name : String) (value other : SqlValue) : Prop :=
  if veil.hidden table name then veil.same value other else value = other

def Rows (table : T) (row other : Row) : Prop :=
  ∀ name, veil.Values table name (row name) (other name)

/-- Two databases. -/
structure Databases (db other : Database T) : Prop where
  rows : ∀ table, List.Forall₂ (veil.Rows table) (db.rows table) (other.rows table)
  sequence : db.sequence = other.sequence
  changes : db.changes = other.changes

/-- No key of the tables is hidden. -/
structure Clear (catalog : Catalog T) : Prop where
  id : ∀ table, veil.hidden table "id" = false
  unique : ∀ table, ∀ key ∈ catalog.unique table, ∀ name ∈ key, veil.hidden table name = false
  references : ∀ table, ∀ reference ∈ catalog.references table,
    veil.hidden table reference.column = false

variable {veil} {catalog : Catalog T} {dialect : Dialect} {table : T} {row other : Row}

theorem values_refl {name : String} {value : SqlValue} : veil.Values table name value value := by
  unfold Values
  split
  · exact veil.refl value
  · rfl

theorem rows_refl {row : Row} : veil.Rows table row row := fun _ => values_refl

theorem Rows.apply (h : veil.Rows table row other) {name : String}
    (hclear : veil.hidden table name = false) : row name = other name := by
  have hname := h name
  unfold Values at hname
  rwa [hclear] at hname

theorem Rows.null_iff (h : veil.Rows table row other) {name : String} :
    row name = .null ↔ other name = .null := by
  have hname := h name
  unfold Values at hname
  split at hname
  · exact veil.null _ _ hname
  · rw [hname]

variable {γ δ : Type} {rows : List Row}

section Lists

variable {α β : Type} {R : α → β → Prop}

section

variable {xs : List α} {ys : List β} (h : List.Forall₂ R xs ys)
include h

theorem any_eq {p : α → Bool} {q : β → Bool} (hpq : ∀ a b, R a b → p a = q b) :
    xs.any p = ys.any q := by
  induction h with
  | nil => rfl
  | cons hab _ ih => rw [List.any_cons, List.any_cons, hpq _ _ hab, ih]

theorem filter_rel {p : α → Bool} {q : β → Bool} (hpq : ∀ a b, R a b → p a = q b) :
    List.Forall₂ R (xs.filter p) (ys.filter q) :=
  List.rel_filter (fun a b hab => Iff.of_eq (congrArg (· = true) (hpq a b hab))) h

theorem map_rel {S : γ → δ → Prop} {f : α → γ} {g : β → δ} (hfg : ∀ a b, R a b → S (f a) (g b)) :
    List.Forall₂ S (xs.map f) (ys.map g) :=
  List.rel_map hfg h

theorem map_eq {f : α → γ} {g : β → γ} (hfg : ∀ a b, R a b → f a = g b) : xs.map f = ys.map g :=
  List.forall₂_eq_eq_eq ▸ map_rel h hfg

theorem filterMap_eq {f : α → Option γ} {g : β → Option γ} (hfg : ∀ a b, R a b → f a = g b) :
    xs.filterMap f = ys.filterMap g := by
  induction h with
  | nil => rfl
  | cons hab _ ih => rw [List.filterMap_cons, List.filterMap_cons, hfg _ _ hab, ih]

theorem mapM_eq {ε : Type} {f : α → Except ε γ} {g : β → Except ε γ}
    (hfg : ∀ a b, R a b → f a = g b) : xs.mapM f = ys.mapM g := by
  induction h with
  | nil => rfl
  | cons hab _ ih => rw [List.mapM_cons, List.mapM_cons, hfg _ _ hab, ih]

theorem find?_rel {p : α → Bool} {q : β → Bool} (hpq : ∀ a b, R a b → p a = q b) :
    Option.Rel R (xs.find? p) (ys.find? q) := by
  induction h with
  | nil => exact .none
  | @cons a b _ _ hab _ ih =>
    rw [List.find?_cons, List.find?_cons, hpq a b hab]
    cases q b with
    | true => exact .some hab
    | false => exact ih

theorem findSome?_rel {S : γ → δ → Prop} {f : α → Option γ} {g : β → Option δ}
    (hfg : ∀ a b, R a b → Option.Rel S (f a) (g b)) :
    Option.Rel S (xs.findSome? f) (ys.findSome? g) := by
  induction h with
  | nil => exact .none
  | @cons a b _ _ hab _ ih =>
    rw [List.findSome?_cons, List.findSome?_cons]
    cases hfa : f a with
    | none =>
      cases hgb : g b with
      | none => exact ih
      | some d =>
        have hrel := hfg a b hab
        rw [hfa, hgb] at hrel
        cases hrel
    | some c =>
      cases hgb : g b with
      | none =>
        have hrel := hfg a b hab
        rw [hfa, hgb] at hrel
        cases hrel
      | some d =>
        have hrel := hfg a b hab
        rw [hfa, hgb] at hrel
        exact hrel

theorem findSome?_eq {f : α → Option γ} {g : β → Option γ} (hfg : ∀ a b, R a b → f a = g b) :
    xs.findSome? f = ys.findSome? g := by
  induction h with
  | nil => rfl
  | cons hab _ ih => rw [List.findSome?_cons, List.findSome?_cons, hfg _ _ hab, ih]

end

theorem map_option_rel {S : γ → δ → Prop} {f : α → γ} {g : β → δ} {x : Option α} {y : Option β}
    (h : Option.Rel R x y) (hfg : ∀ a b, R a b → S (f a) (g b)) :
    Option.Rel S (x.map f) (y.map g) := by
  cases h with
  | none => exact .none
  | some hab => exact .some (hfg _ _ hab)

theorem map_option_eq {f : α → γ} {g : β → γ} {x : Option α} {y : Option β} (h : Option.Rel R x y)
    (hfg : ∀ a b, R a b → f a = g b) : x.map f = y.map g := by
  cases h with
  | none => rfl
  | some hab => exact congrArg some (hfg _ _ hab)

theorem find?_congr {p q : α → Bool} {xs : List α} (h : ∀ a ∈ xs, p a = q a) :
    xs.find? p = xs.find? q := by
  induction xs with
  | nil => rfl
  | cons a xs ih =>
    rw [List.find?_cons, List.find?_cons, h a List.mem_cons_self,
      ih fun b hb => h b (List.mem_cons_of_mem _ hb)]

end Lists

variable {others : List Row}

theorem sorted_rel {column : String} (h : List.Forall₂ (veil.Rows table) rows others)
    (hclear : veil.hidden table column = false) :
    List.Forall₂ (veil.Rows table) (Database.sorted dialect column rows)
      (Database.sorted dialect column others) := by
  have hinsert : ∀ {r r' : Row} {rs rs' : List Row}, veil.Rows table r r' →
      List.Forall₂ (veil.Rows table) rs rs' → List.Forall₂ (veil.Rows table)
        (rs.orderedInsert (fun a b => dialect.sorts (a column) (b column)) r)
        (rs'.orderedInsert (fun a b => dialect.sorts (a column) (b column)) r') := by
    intro r r' rs rs' hr hrs
    induction hrs with
    | nil => exact .cons hr .nil
    | @cons a b _ _ hab hrest ih =>
      rw [List.orderedInsert_cons, List.orderedInsert_cons, hr.apply hclear, hab.apply hclear]
      split
      · exact .cons hr (.cons hab hrest)
      · exact .cons hab ih
  induction h with
  | nil => exact .nil
  | cons hab _ ih => exact hinsert hab ih

theorem anyLike_eq {columns : List String} {pattern : String}
    (h : veil.Rows table row other) (hclear : ∀ name ∈ columns, veil.hidden table name = false) :
    Database.anyLike dialect columns pattern row =
      Database.anyLike dialect columns pattern other := by
  unfold Database.anyLike
  rw [Bool.eq_iff_iff, List.any_eq_true, List.any_eq_true]
  constructor
  · rintro ⟨name, hmem, hlike⟩
    exact ⟨name, hmem, h.apply (hclear name hmem) ▸ hlike⟩
  · rintro ⟨name, hmem, hlike⟩
    exact ⟨name, hmem, (h.apply (hclear name hmem)).symm ▸ hlike⟩

theorem breach_eq (hclear : veil.Clear catalog) {assigned : String → Bool}
    {parents parents' : T → List Row} (h : veil.Rows table row other)
    (hrows : List.Forall₂ (veil.Rows table) rows others)
    (hparents : ∀ t, List.Forall₂ (veil.Rows t) (parents t) (parents' t)) :
    catalog.breach table assigned rows parents row =
      catalog.breach table assigned others parents' other := by
  have hempty : (catalog.columns table).find? (fun column =>
      column.notNull && assigned column.name && row column.name = .null) =
      (catalog.columns table).find? fun column =>
        column.notNull && assigned column.name && other column.name = .null :=
    find?_congr fun column _ => by rw [decide_eq_decide.2 h.null_iff]
  have htaken : (catalog.unique table).find? (fun key =>
      key.any assigned && rows.any fun r => key.all fun name =>
        row name ≠ .null && r name = row name) =
      (catalog.unique table).find? fun key =>
        key.any assigned && others.any fun r => key.all fun name =>
          other name ≠ .null && r name = other name := by
    apply find?_congr
    intro key hkey
    rw [any_eq hrows fun r r' hr => ?_]
    rw [Bool.eq_iff_iff, List.all_eq_true, List.all_eq_true]
    refine forall₂_congr fun name hname => ?_
    rw [h.apply (hclear.unique table key hkey name hname),
      hr.apply (hclear.unique table key hkey name hname)]
  have hdangling : (catalog.references table).find? (fun reference =>
      assigned reference.column && row reference.column ≠ .null &&
        !(parents reference.table).any fun parent => parent "id" = row reference.column) =
      (catalog.references table).find? fun reference =>
        assigned reference.column && other reference.column ≠ .null &&
          !(parents' reference.table).any fun parent => parent "id" = other reference.column := by
    apply find?_congr
    intro reference hreference
    rw [h.apply (hclear.references table reference hreference),
      any_eq (hparents reference.table) fun r r' hr => by rw [hr.apply (hclear.id _)]]
  unfold Catalog.breach
  rw [hempty, htaken, hdangling]

/-- New values of some columns. -/
abbrev Fields (veil : Veil T) (catalog : Catalog T) (dialect : Dialect) (table : T) :
    List (String × SqlValue) → List (String × SqlValue) → Prop :=
  List.Forall₂ fun field other => field.1 = other.1 ∧ veil.Values table field.1
    (catalog.stored dialect table field.1 field.2) (catalog.stored dialect table field.1 other.2)

theorem fields_refl {fields : List (String × SqlValue)} :
    veil.Fields catalog dialect table fields fields :=
  List.forall₂_same.2 fun _ _ => ⟨rfl, values_refl⟩

theorem lookup_rel {fields others : List (String × SqlValue)}
    (h : veil.Fields catalog dialect table fields others) (name : String) :
    Option.Rel (fun value other => veil.Values table name
      (catalog.stored dialect table name value) (catalog.stored dialect table name other))
      (fields.lookup name) (others.lookup name) := by
  induction h with
  | nil => exact .none
  | @cons field other _ _ hfield _ ih =>
    obtain ⟨key, value⟩ := field
    obtain ⟨key', value'⟩ := other
    obtain ⟨rfl, hvalues⟩ := hfield
    rw [List.lookup_cons, List.lookup_cons]
    cases hkey : name == key with
    | true =>
      rw [beq_iff_eq] at hkey
      subst hkey
      exact .some hvalues
    | false => exact ih

section

variable {fields others : List (String × SqlValue)}
  (hfields : veil.Fields catalog dialect table fields others)
include hfields

theorem assign_rel (h : veil.Rows table row other) :
    veil.Rows table (Database.assign catalog dialect table fields row)
      (Database.assign catalog dialect table others other) := by
  intro name
  have hlookup := lookup_rel hfields name
  unfold Database.assign
  generalize fields.lookup name = found, others.lookup name = found' at hlookup
  cases hlookup with
  | none => exact h name
  | some hvalues => exact hvalues

theorem newRow_rel (id : ℤ) :
    veil.Rows table (Database.newRow catalog dialect table id fields)
      (Database.newRow catalog dialect table id others) := by
  intro name
  have hlookup := lookup_rel hfields name
  unfold Database.newRow
  generalize fields.lookup name = found, others.lookup name = found' at hlookup
  split
  · exact values_refl
  · cases hlookup with
    | none => exact values_refl
    | some hvalues =>
      unfold Catalog.stored at hvalues
      split
      · exact values_refl
      · rename_i column hcolumn
        rw [hcolumn] at hvalues
        exact hvalues

theorem assigned_eq :
    (fun name => (fields.lookup name).isSome) = fun name => (others.lookup name).isSome := by
  funext name
  have hlookup := lookup_rel hfields name
  generalize fields.lookup name = found, others.lookup name = found' at hlookup
  cases hlookup with
  | none | some => rfl

end

variable {db db' : Database T}

theorem nextId_eq (hclear : veil.Clear catalog) (h : veil.Databases db db') {table : T} :
    db.nextId table = db'.nextId table := by
  unfold Database.nextId
  rw [h.sequence, filterMap_eq (h.rows table) fun r r' hr => by
    rw [hr.apply (hclear.id table)]]

variable [DecidableEq T]

theorem databases_write {count : ℕ} (h : veil.Databases db db')
    (hrows : List.Forall₂ (veil.Rows table) rows others) :
    veil.Databases (db.write table rows count) (db'.write table others count) where
  rows := by
    intro t
    unfold Database.write
    dsimp only
    by_cases ht : t = table
    · subst ht
      rw [Function.update_self, Function.update_self]
      exact hrows
    · rw [Function.update_of_ne ht, Function.update_of_ne ht]
      exact h.rows t
  sequence := h.sequence
  changes := by
    unfold Database.write
    rw [h.changes]

/-- The results of a statement on both sides. -/
abbrev Answers (veil : Veil T) {α : Type} (x y : Except Breach (α × Database T)) : Prop :=
  Attempt.SameEnd (fun a b => a.1 = b.1 ∧ veil.Databases a.2 b.2) x y

variable {fields others : List (String × SqlValue)}

theorem insert_rel (hclear : veil.Clear catalog) (h : veil.Databases db db')
    (hfields : veil.Fields catalog dialect table fields others) :
    veil.Answers (db.insert catalog dialect table fields)
      (db'.insert catalog dialect table others) := by
  unfold Database.insert
  dsimp only
  rw [nextId_eq hclear h, breach_eq hclear (newRow_rel hfields _) (h.rows table) h.rows]
  split
  · exact .error _
  · split
    · exact .error _
    · have hwrite : veil.Databases
          (db.write table (db.rows table ++
            [Database.newRow catalog dialect table (db'.nextId table) fields]) 1)
          (db'.write table (db'.rows table ++
            [Database.newRow catalog dialect table (db'.nextId table) others]) 1) :=
        databases_write h
          (List.rel_append (h.rows table) (.cons (newRow_rel hfields _) .nil))
      exact .ok ⟨rfl, hwrite.rows, by rw [h.sequence], by rw [Database.write, h.changes]; rfl⟩

omit [DecidableEq T] in
theorem updated_rel (h : veil.Databases db db') {key : String}
    (hkey : veil.hidden table key = false) (value : SqlValue)
    (hfields : veil.Fields catalog dialect table fields others) :
    List.Forall₂ (veil.Rows table) (db.updated catalog dialect table key value fields)
      (db'.updated catalog dialect table key value others) :=
  map_rel (filter_rel (h.rows table) fun r r' hr => by rw [hr.apply hkey])
    fun _ _ hr => assign_rel hfields hr

theorem update_rel (hclear : veil.Clear catalog) (h : veil.Databases db db') {key : String}
    (hkey : veil.hidden table key = false) {value : SqlValue}
    (hfields : veil.Fields catalog dialect table fields others) :
    veil.Answers (db.update catalog dialect table key value fields)
      (db'.update catalog dialect table key value others) := by
  have hupdated := updated_rel h hkey value hfields
  have hbreach : db.updateBreach catalog dialect table key value fields =
      db'.updateBreach catalog dialect table key value others := by
    unfold Database.updateBreach
    rw [assigned_eq hfields]
    exact findSome?_eq hupdated fun r r' hr => breach_eq hclear hr
      (filter_rel (h.rows table) fun r r' hr => by rw [hr.apply hkey]) h.rows
  unfold Database.update
  rw [hbreach, hupdated.length_eq]
  split
  · exact .error _
  · refine .ok ⟨rfl, databases_write h (map_rel (h.rows table) fun r r' hr => ?_)⟩
    rw [hr.apply hkey]
    split
    · exact assign_rel hfields hr
    · exact hr

omit [DecidableEq T] in
theorem follow_rel {gone : SqlValue → Bool} {others : List Row} {reference : Reference T}
    (h : List.Forall₂ (veil.Rows table) rows others)
    (hkey : veil.hidden table reference.column = false) :
    List.Forall₂ (veil.Rows table) (Database.follow gone rows reference)
      (Database.follow gone others reference) := by
  unfold Database.follow
  cases reference.onDelete with
  | cascade => exact filter_rel h fun r r' hr => by rw [hr.apply hkey]
  | setNull =>
    apply map_rel h
    intro r r' hr
    rw [hr.apply hkey]
    split
    · intro name
      by_cases hname : name = reference.column
      · subst hname
        rw [Function.update_self, Function.update_self]
        exact values_refl
      · rw [Function.update_of_ne hname, Function.update_of_ne hname]
        exact hr name
    · exact hr
  | restrict => exact h

omit [DecidableEq T] in
theorem foldl_follow_rel {gone : SqlValue → Bool} {others : List Row}
    {references : List (Reference T)} (h : List.Forall₂ (veil.Rows table) rows others)
    (hkeys : ∀ reference ∈ references, veil.hidden table reference.column = false) :
    List.Forall₂ (veil.Rows table) (references.foldl (Database.follow gone) rows)
      (references.foldl (Database.follow gone) others) := by
  induction references generalizing rows others with
  | nil => exact h
  | cons reference references ih =>
    exact ih (follow_rel h (hkeys reference List.mem_cons_self))
      fun r hr => hkeys r (List.mem_cons_of_mem _ hr)

theorem delete_rel (hclear : veil.Clear catalog) (h : veil.Databases db db')
    {hit hit' : Row → Bool} (hhit : ∀ r r', veil.Rows table r r' → hit r = hit' r') :
    veil.Answers (db.delete catalog table hit) (db'.delete catalog table hit') := by
  have hremoved := filter_rel (h.rows table) hhit
  have hgone (value : SqlValue) :
      ((db.rows table).filter hit).any (fun row => row "id" = value) =
        ((db'.rows table).filter hit').any fun row => row "id" = value :=
    any_eq hremoved fun r r' hr => by rw [hr.apply (hclear.id table)]
  have hkey {child : T} {reference : Reference T}
      (hmem : reference ∈ Database.keysTo catalog table child) :
      veil.hidden child reference.column = false :=
    hclear.references child reference (List.mem_filter.1 hmem).1
  have hrestrict : (catalog.tables.any fun child =>
      (Database.keysTo catalog table child).any fun reference =>
        reference.onDelete = .restrict && (db.rows child).any fun row =>
          ((db.rows table).filter hit).any fun r => r "id" = row reference.column) =
      catalog.tables.any fun child =>
        (Database.keysTo catalog table child).any fun reference =>
          reference.onDelete = .restrict && (db'.rows child).any fun row =>
            ((db'.rows table).filter hit').any fun r => r "id" = row reference.column := by
    apply List.any_congr rfl
    intro child
    rw [Bool.eq_iff_iff, List.any_eq_true, List.any_eq_true]
    refine exists_congr fun reference => and_congr_right fun hmem => ?_
    rw [any_eq (h.rows child) fun r r' hr => by rw [hr.apply (hkey hmem), hgone]]
  unfold Database.delete
  dsimp only
  rw [hrestrict]
  split
  · exact .error _
  · rw [hremoved.length_eq]
    refine .ok ⟨rfl, ?_, h.sequence, by rw [h.changes]⟩
    intro child
    dsimp only
    split
    · rename_i hchild
      subst hchild
      exact filter_rel (h.rows child) fun r r' hr => by rw [hhit r r' hr]
    · rw [funext hgone]
      exact foldl_follow_rel (h.rows child) fun reference hmem => hkey hmem

end Veil

end Tunnara.Sql
