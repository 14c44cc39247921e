/-
# Password hashes

Two states of the databases that differ in the hashes of the users only, and there in hashes
that accept the same passwords. A command whose answer and whose entries in the logs are the
same from both keeps the hashes to the table of users. The list of users over HTTP does not:
it selects every column.
-/

import Tunnara.Console.Access
import Tunnara.Console.Dispatch
import Tunnara.Sql.Veil

namespace Tunnara.Console.Secrecy

open Sql Attempt

variable (host : Host)

/-- Hashes may be exchanged for others that accept the same passwords. -/
def hashVeil : Veil Table where
  hidden table name := table = .usuarios && name = "senha_hash"
  same value other := value = other ∨ ∃ hash hash', value = .text hash ∧ other = .text hash' ∧
    ∀ password, host.verifyPassword password hash = host.verifyPassword password hash'
  refl _ := .inl rfl
  null := by
    rintro value other (rfl | ⟨hash, hash', rfl, rfl, -⟩)
    · rfl
    · simp

/-- The states of the databases differ in such hashes at most. -/
def Stores (s s' : Store) : Prop := ∀ place, (hashVeil host).Databases (s place) (s' place)

/-- From such states the two runs have one result. -/
abbrev Veiled {α : Type} (m : Action α) : Prop := Alike (Stores host) Eq m m

variable {host} {table : Table} {db db' : Database Table} {α : Type} {key : String} {place : Place}
  {label token : String} {userId : ℤ} {login : String}

theorem hidden_eq_false {name : String} (h : name ≠ "senha_hash") :
    (hashVeil host).hidden table name = false := by
  simp [hashVeil, h]

theorem clear : (hashVeil host).Clear (catalogAt place) where
  id table := hidden_eq_false (by decide)
  unique table key hkey name hname := by
    apply hidden_eq_false
    rintro rfl
    cases place <;> cases table <;>
      simp [catalogAt, catalog, Table.unique] at hkey <;> subst hkey <;> simp at hname
  references table reference hreference := by
    apply hidden_eq_false
    cases place <;> cases table <;>
      simp [catalogAt, catalog, Table.references] at hreference <;>
      rcases hreference with rfl | rfl <;> decide

theorem rows_eq (h : (hashVeil host).Databases db db') (htable : table ≠ .usuarios) :
    db.rows table = db'.rows table := by
  have hrows := (h.rows table).imp fun row other hrow =>
    funext fun name => hrow.apply (show (hashVeil host).hidden table name = false by simp [hashVeil, htable])
  rwa [List.forall₂_eq_eq_eq] at hrows

theorem veiled_ofExcept {result : Except String α} : Veiled host (ofExcept result) :=
  alike_except sameEnd_refl

theorem veiled_pure {a : α} : Veiled host (pure a) := alike_pure rfl

theorem veiled_throw {error : String} : Veiled host (throw error : Action α) :=
  alike_throw

theorem alike_statement {run run' : Database Table → Except Breach (α × Database Table)}
    (h : ∀ db db', (hashVeil host).Databases db db' → (hashVeil host).Answers (run db) (run' db')) :
    Alike (Stores host) Eq (statement place label run) (statement place label run') := by
  refine alike_get.bind fun s s' hs => ?_
  have hrun := h (s place) (s' place) (hs place)
  generalize run (s place) = answer, run' (s' place) = answer' at hrun
  cases hrun with
  | error breach => exact alike_throw
  | @ok a b hanswer =>
    obtain ⟨hvalue, hdb⟩ := hanswer
    dsimp only
    rw [hvalue]
    refine (alike_set fun at_ => ?_).bind_eq fun _ => veiled_pure
    by_cases hplace : at_ = place
    · subst hplace
      rw [Function.update_self, Function.update_self]
      exact hdb
    · rw [Function.update_of_ne hplace, Function.update_of_ne hplace]
      exact hs at_

/-- Two lists of new values: the hashes may differ as in the rows. -/
abbrev Fields (host : Host) (place : Place) (table : Table) : List (String × SqlValue) →
    List (String × SqlValue) → Prop :=
  (hashVeil host).Fields (catalogAt place) (host.dialect place) table

variable {fields : List (String × SqlValue)} {label : String}

theorem alike_insertRow {place : Place} {others : List (String × SqlValue)}
    (h : Fields host place table fields others) :
    Alike (Stores host) Eq (insertRow host place table fields label)
      (insertRow host place table others label) :=
  alike_statement fun _ _ hdb => Veil.insert_rel clear hdb h

theorem veiled_insertRow : Veiled host (insertRow host place table fields label) :=
  alike_insertRow Veil.fields_refl

variable {value : SqlValue}

theorem alike_updateRows {place : Place} (hkey : key ≠ "senha_hash")
    {others : List (String × SqlValue)} (h : Fields host place table fields others) :
    Alike (Stores host) Eq (updateRows host place table key value fields label)
      (updateRows host place table key value others label) :=
  alike_statement fun _ _ hdb => Veil.update_rel clear hdb (hidden_eq_false hkey) h

theorem veiled_updateRows (hkey : key ≠ "senha_hash") :
    Veiled host (updateRows host place table key value fields label) :=
  alike_updateRows hkey Veil.fields_refl

theorem alike_upsertRecord {id : Option ℤ}
    {updated updated' inserted inserted' : List (String × SqlValue)}
    (hupdated : Fields host place table updated updated')
    (hinserted : Fields host place table inserted inserted') {updateLabel insertLabel : String} :
    Alike (Stores host) Eq
      (upsertRecord host place table id updated inserted updateLabel insertLabel)
      (upsertRecord host place table id updated' inserted' updateLabel insertLabel) := by
  cases id with
  | none => exact alike_insertRow hinserted
  | some existing =>
    exact (alike_updateRows (by decide) hupdated).bind_eq fun _ => veiled_pure

theorem veiled_upsertRecord {id : Option ℤ} {updated inserted : List (String × SqlValue)}
    {updateLabel insertLabel : String} :
    Veiled host (upsertRecord host place table id updated inserted updateLabel insertLabel) :=
  alike_upsertRecord Veil.fields_refl Veil.fields_refl

theorem veiled_deleteRows {hit : Row → Bool}
    (hhit : ∀ row other, (hashVeil host).Rows table row other → hit row = hit other) :
    Veiled host (deleteRows place table hit label) :=
  alike_statement fun _ _ h => Veil.delete_rel clear h hhit

theorem alike_tableRows :
    Alike (Stores host) (List.Forall₂ ((hashVeil host).Rows table)) (tableRows place table)
      (tableRows place table) :=
  alike_get.bind fun _ _ hs => alike_pure ((hs place).rows table)

theorem veiled_tableRows (htable : table ≠ .usuarios) : Veiled host (tableRows place table) :=
  alike_get.bind fun _ _ hs => alike_pure (rows_eq (hs place) htable)

theorem veiled_deleteBy (hkey : key ≠ "senha_hash") :
    Veiled host (deleteRows place table (fun row => row key = value) label) :=
  veiled_deleteRows fun row other h => by rw [h.apply (hidden_eq_false hkey)]

variable {row other : Row}

theorem blind {f : Row → α} (hf : ∀ row, f (Function.update row "senha_hash" .null) = f row)
    (h : (hashVeil host).Rows .usuarios row other) : f row = f other := by
  have hrow : Function.update row "senha_hash" .null =
      Function.update other "senha_hash" .null := by
    funext name
    by_cases hname : name = "senha_hash"
    · subst hname
      rw [Function.update_self, Function.update_self]
    · rw [Function.update_of_ne hname, Function.update_of_ne hname]
      exact h.apply (hidden_eq_false hname)
  rw [← hf row, hrow, hf other]

theorem rowToJsonMap_eq {columns : List String} (h : (hashVeil host).Rows table row other)
    (hcolumns : "senha_hash" ∉ columns) :
    rowToJsonMap columns row = rowToJsonMap columns other := by
  apply List.map_congr_left
  intro column hmem
  have hcolumn : column ≠ "senha_hash" := fun heq => hcolumns (heq ▸ hmem)
  rw [h.apply (hidden_eq_false hcolumn)]

theorem removeField_record (h : (hashVeil host).Rows .usuarios row other) :
    removeField (AppCommands.record .usuarios row) "senha_hash" =
      removeField (AppCommands.record .usuarios other) "senha_hash" := by
  unfold removeField AppCommands.record rowToJsonMap
  rw [List.filter_map, List.filter_map]
  apply List.map_congr_left
  intro column hmem
  have hcolumn : column ≠ "senha_hash" := by
    have hkept := (List.mem_filter.1 hmem).2
    simpa using hkept
  rw [h.apply (hidden_eq_false hcolumn)]

theorem userById_rel (h : (hashVeil host).Databases db db') (id : ℤ) :
    Option.Rel ((hashVeil host).Rows .usuarios) (userById db id) (userById db' id) :=
  Veil.find?_rel (h.rows .usuarios) fun row other hrow => by
    rw [hrow.apply (hidden_eq_false (by decide))]

theorem sessionOf_rel (h : (hashVeil host).Databases db db') (token now : String) :
    Option.Rel (fun a b => a.1 = b.1 ∧ (hashVeil host).Rows .usuarios a.2 b.2)
      (sessionOf db token now) (sessionOf db' token now) := by
  unfold sessionOf
  rw [rows_eq h (show Table.userSessions ≠ .usuarios by decide)]
  apply Veil.findSome?_rel (List.forall₂_same.2 fun session _ => rfl (a := session))
  rintro session _ rfl
  split
  · exact Veil.map_option_rel (Veil.find?_rel (h.rows .usuarios) fun row other hrow => by
      rw [hrow.apply (hidden_eq_false (by decide))]) fun _ _ hrow => ⟨rfl, hrow⟩
  · exact .none

theorem alike_blind (f : Row → Except String α) {row other : Row}
    (h : (hashVeil host).Rows .usuarios row other)
    (hf : ∀ row, f (Function.update row "senha_hash" .null) = f row) :
    Alike (Stores host) Eq (ofExcept (f row)) (ofExcept (f other)) :=
  blind hf h ▸ veiled_ofExcept

theorem veiled_enqueueSync {entity action : String} {recordId : Option ℤ} {payload : Value} :
    Veiled host (enqueueSync host entity action recordId payload) :=
  veiled_insertRow.bind_eq fun _ => veiled_pure

theorem veiled_writeAudit {entity action : String} {recordId : Option ℤ} {payload : Value} :
    Veiled host (writeAudit host entity action recordId payload) :=
  veiled_insertRow.bind_eq fun _ => veiled_pure

theorem veiled_writeAppLog {input : AppLogInput} : Veiled host (writeAppLog host input) :=
  veiled_insertRow.bind_eq fun _ => veiled_ofExcept

theorem veiled_noteAppLog {input : AppLogInput} : Veiled host (noteAppLog host input) :=
  veiled_writeAppLog.tryCatch fun _ => veiled_pure

theorem veiled_requireSessionByToken : Veiled host (requireSessionByToken host token) := by
  apply alike_ite Iff.rfl
  · intro _
    exact veiled_throw
  · intro _
    refine alike_get.bind fun s s' hs => ?_
    have hsession := sessionOf_rel (hs .file) (trimText token) host.now
    generalize sessionOf (s .file) (trimText token) host.now = found,
      sessionOf (s' .file) (trimText token) host.now = found' at hsession
    cases hsession with
    | none => exact veiled_throw
    | @some a b hpair =>
      obtain ⟨session, user⟩ := a
      obtain ⟨session', user'⟩ := b
      obtain ⟨rfl, huser⟩ := hpair
      refine (alike_blind (readSession session) huser fun _ => rfl).bind_eq fun _ => ?_
      apply alike_ite Iff.rfl
      · intro _
        exact veiled_throw
      · intro _
        exact (veiled_updateRows (by decide)).bind_eq fun _ => veiled_pure

theorem veiled_buildAuthUser : Veiled host (buildAuthUser host userId) := by
  unfold buildAuthUser
  dsimp only
  refine alike_get.bind fun s s' hs => ?_
  have hrows (table : Table) (htable : table ≠ .usuarios) := rows_eq (hs .file) htable
  have huser := userById_rel (hs .file) userId
  generalize userById (s .file) userId = found, userById (s' .file) userId = found' at huser
  cases huser with
  | none => exact veiled_throw
  | @some row row' hrow =>
    rw [hrows .usuariosPerfis (by decide), hrows .perfisAcesso (by decide),
      hrows .usuariosEmpresas (by decide), hrows .empresas (by decide),
      hrows .perfisPermissoes (by decide)]
    refine (alike_blind readAuthUser hrow fun _ => rfl).bind_eq fun base => ?_
    apply alike_ite Iff.rfl
    · intro _
      exact veiled_throw
    · intro _
      refine veiled_ofExcept.bind_eq fun profiles => ?_
      refine veiled_ofExcept.bind_eq fun companies => ?_
      apply alike_ite Iff.rfl
      · intro _
        exact veiled_pure.bind_eq fun _ => veiled_pure
      · intro _
        exact veiled_ofExcept.bind_eq fun _ => veiled_pure.bind_eq fun _ => veiled_pure

/-- The user that a login names: the two hashes accept the same passwords. -/
def Logins (host : Host) (login login' : LoginRow) : Prop :=
  login.id = login'.id ∧ login.login = login'.login ∧ login.ativo = login'.ativo ∧
    ∀ password, host.verifyPassword password login.senhaHash =
      host.verifyPassword password login'.senhaHash

theorem hash_cases (h : (hashVeil host).Rows .usuarios row other) :
    row = other ∨ ∃ hash hash', row = Function.update other "senha_hash" (.text hash) ∧
      other "senha_hash" = .text hash' ∧
      ∀ password, host.verifyPassword password hash = host.verifyPassword password hash' := by
  have hhash : (hashVeil host).same (row "senha_hash") (other "senha_hash") := h "senha_hash"
  rcases hhash with heq | ⟨hash, hash', hrow, hother, hverify⟩
  · left
    funext name
    by_cases hname : name = "senha_hash"
    · rw [hname, heq]
    · exact h.apply (hidden_eq_false hname)
  · refine .inr ⟨hash, hash', ?_, hother, hverify⟩
    funext name
    by_cases hname : name = "senha_hash"
    · rw [hname, hrow, Function.update_self]
    · rw [Function.update_of_ne hname]
      exact h.apply (hidden_eq_false hname)

theorem sameEnd_labelled {β : Type} {V : α → β → Prop} {x : Except String α} {y : Except String β}
    (h : SameEnd V x y) : SameEnd V (labelled label x) (labelled label y) := by
  cases h with
  | ok h => exact .ok h
  | error e => exact .error _

theorem readLogin_rel (h : (hashVeil host).Rows .usuarios row other) :
    SameEnd (Logins host) (readLogin row) (readLogin other) := by
  apply sameEnd_labelled
  rcases hash_cases h with rfl | ⟨hash, hash', rfl, hother, hverify⟩
  · exact sameEnd_refl.mono fun login _ heq => heq ▸ ⟨rfl, rfl, rfl, fun _ => rfl⟩
  · refine sameEnd_refl.bind fun id _ hid => ?_
    refine sameEnd_refl.bind fun _ _ _ => ?_
    refine sameEnd_refl.bind fun login _ hlogin => ?_
    have hread : readText other 3 "senha_hash" = .ok hash' := by
      unfold readText
      rw [hother]
      rfl
    refine SameEnd.bind (V := fun a b => a = hash ∧ b = hash') ?_ fun a b hab => ?_
    · rw [hread]
      exact .ok ⟨rfl, rfl⟩
    · refine sameEnd_refl.bind fun _ _ _ => ?_
      refine sameEnd_refl.bind fun ativo _ hativo => ?_
      obtain ⟨rfl, rfl⟩ := hab
      exact .ok ⟨hid, hlogin, hativo, hverify⟩

theorem loginRow_rel :
    Alike (Stores host) (Option.Rel (Logins host)) (loginRow host login) (loginRow host login) := by
  refine alike_get.bind fun s s' hs => ?_
  have huser := Veil.find?_rel ((hs .file).rows .usuarios)
    (p := fun user => (host.dialect .file).lower (user "login") =
      .text (host.toLowercase (trimText login)))
    (q := fun user => (host.dialect .file).lower (user "login") =
      .text (host.toLowercase (trimText login))) fun row other hrow => by
      rw [hrow.apply (hidden_eq_false (by decide))]
  dsimp only
  generalize List.find? _ ((s .file).rows .usuarios) = found,
    List.find? _ ((s' .file).rows .usuarios) = found' at huser ⊢
  cases huser with
  | none => exact alike_pure .none
  | some hrow => exact (alike_except (readLogin_rel hrow)).map fun _ _ h => .some h

theorem veiled_openSession : Veiled host (openSession host userId) := by
  refine Alike.bind_eq (veiled_deleteRows (fun row other h => ?_)) fun _ => ?_
  · rw [h.apply (hidden_eq_false (by decide)), h.apply (hidden_eq_false (by decide))]
  · exact veiled_insertRow.bind_eq fun _ =>
      (veiled_updateRows (by decide)).bind_eq fun _ => veiled_pure

theorem veiled_loginWith {senha : String} {finish : LoginRow → AuthUser → Action LoginResponse}
    (hfinish : ∀ row row' user, Logins host row row' →
      Alike (Stores host) Eq (finish row user) (finish row' user)) :
    Veiled host (loginWith host login senha finish) := by
  refine loginRow_rel.bind fun found found' h => ?_
  cases h with
  | none => exact veiled_pure
  | @some row row' hrow =>
    obtain ⟨hid, -, hativo, hverify⟩ := id hrow
    dsimp only
    rw [hid, hativo, hverify]
    apply alike_ite Iff.rfl
    · intro _
      exact veiled_pure
    · intro _
      refine veiled_ofExcept.bind_eq fun verified => ?_
      apply alike_ite Iff.rfl
      · intro _
        exact veiled_pure
      · intro _
        exact veiled_openSession.bind_eq fun _ =>
          veiled_buildAuthUser.bind_eq fun user => hfinish row row' user hrow

theorem veiled_authLogin {senha : String} : Veiled host (authLogin host login senha) :=
  veiled_loginWith fun row row' user h => by
    rw [h.1, h.2.1]
    exact veiled_noteAppLog.bind_eq fun _ => veiled_pure

theorem veiled_authRestore : Veiled host (authRestore host token) := by
  refine Alike.bind_eq (Alike.tryCatch (veiled_requireSessionByToken.map
    fun a b h => congrArg some h) fun _ => veiled_pure) fun found => ?_
  cases found with
  | none => exact veiled_noteAppLog.bind_eq fun _ => veiled_pure
  | some identity =>
    exact veiled_buildAuthUser.bind_eq fun _ => veiled_noteAppLog.bind_eq fun _ => veiled_pure

theorem veiled_authLogout : Veiled host (authLogout host token) :=
  (veiled_deleteBy (by decide)).bind_eq fun _ => veiled_noteAppLog.bind_eq fun _ => veiled_pure

theorem currentHash_rel :
    Alike (Stores host) (fun hash hash' => ∀ password,
      host.verifyPassword password hash = host.verifyPassword password hash')
      (currentHash label userId) (currentHash label userId) := by
  refine alike_get.bind fun s s' hs => ?_
  have huser := userById_rel (hs .file) userId
  generalize userById (s .file) userId = found, userById (s' .file) userId = found' at huser ⊢
  cases huser with
  | none => exact alike_throw
  | @some row row' hrow =>
    apply alike_except
    apply sameEnd_labelled
    rcases hash_cases hrow with rfl | ⟨hash, hash', rfl, hother, hverify⟩
    · exact sameEnd_refl.mono fun hash _ heq => heq ▸ fun _ => rfl
    · unfold readText
      rw [hother]
      exact .ok hverify

/-- Two hashes of one password: they accept the same, and both or neither are blank. -/
def NewHashes (host : Host) (hash hash' : String) : Prop :=
  isBlank hash = isBlank hash' ∧
    ∀ password, host.verifyPassword password hash = host.verifyPassword password hash'

/-- The process with other salts. -/
abbrev resalted (host : Host) (draw : String → Except String String) : Host := { host with hashPassword := draw }

/-- The other salts make other hashes of the same passwords. -/
def Salts (host : Host) (draw : String → Except String String) : Prop :=
  ∀ password, SameEnd (NewHashes host) (host.hashPassword password) (draw password)

theorem values_hash {hash hash' : String} (h : NewHashes host hash hash') :
    (hashVeil host).Values .usuarios "senha_hash"
      ((catalogAt place).stored (host.dialect place) .usuarios "senha_hash" (.text hash))
      ((catalogAt place).stored (host.dialect place) .usuarios "senha_hash" (.text hash')) := by
  have hstored (text : String) : (catalogAt place).stored (host.dialect place) .usuarios
      "senha_hash" (.text text) = .text text := by
    cases place <;> rfl
  rw [hstored, hstored]
  exact .inr ⟨hash, hash', rfl, rfl, h.2⟩

theorem alike_storePassword {hash hash' : String} (h : NewHashes host hash hash') :
    Alike (Stores host) Eq (storePassword host userId hash) (storePassword host userId hash') := by
  refine (alike_updateRows (by decide) ?_).bind_eq fun _ => veiled_pure
  exact .cons ⟨rfl, values_hash h⟩ Veil.fields_refl

variable {draw : String → Except String String}

theorem alike_authChangePassword (hdraw : Salts host draw) {token current new : String} :
    Alike (Stores host) Eq (authChangePassword host token current new)
      (authChangePassword (resalted host draw) token current new) := by
  refine veiled_requireSessionByToken.bind_eq fun identity => ?_
  apply alike_ite Iff.rfl
  · intro _
    exact veiled_throw
  · intro _
    refine currentHash_rel.bind fun hash hash' hverify => ?_
    rw [hverify]
    refine veiled_ofExcept.bind_eq fun verified => ?_
    apply alike_ite Iff.rfl
    · intro _
      exact veiled_throw
    · intro _
      exact (alike_except (hdraw _)).bind fun _ _ hnew =>
        (alike_storePassword hnew).bind_eq fun _ => veiled_noteAppLog.bind_eq fun _ => veiled_pure

end Tunnara.Console.Secrecy
