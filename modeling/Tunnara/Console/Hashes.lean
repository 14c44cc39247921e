/-
# Where the hashes stay hidden

Command by command, over HTTP and on the desktop.
-/

import Tunnara.Console.Secrecy

namespace Tunnara.Console.Secrecy

open Sql Attempt

structure CleanDefinition (definition : EntityDefinition) : Prop where
  select : "senha_hash" ∉ selectColumns definition
  searchable : "senha_hash" ∉ definition.searchable
  label : definition.labelColumn ≠ "senha_hash"

variable {definition : EntityDefinition}

theorem entityDefinition_clean {entity : String} (h : entityDefinition entity = some definition) :
    CleanDefinition definition := by
  unfold entityDefinition at h
  split_ifs at h <;> cases h <;> exact ⟨by decide, by decide, by decide⟩

variable {host : Host} {entity search token : String} {payload : List (String × Value)} {id : ℤ}
  {driver : DatabaseDriver}

theorem alike_requireDefinition :
    Alike (Stores host) (fun definition definition' => definition = definition' ∧
      CleanDefinition definition) (requireDefinition entity) (requireDefinition entity) := by
  unfold requireDefinition
  cases h : entityDefinition entity with
  | none => exact alike_throw
  | some definition => exact alike_pure ⟨rfl, entityDefinition_clean h⟩

theorem veiled_checkRequired : Veiled host (checkRequired definition payload) := by
  unfold checkRequired
  split
  · exact veiled_throw
  · exact veiled_pure

theorem searchRows_rel {place : Place} {rows others : List Row}
    (hclean : CleanDefinition definition)
    (h : List.Forall₂ ((hashVeil host).Rows definition.table) rows others) :
    List.Forall₂ ((hashVeil host).Rows definition.table)
      (searchRows host place definition search rows)
      (searchRows host place definition search others) := by
  refine List.rel_reverse (Veil.sorted_rel ?_ (hidden_eq_false (by decide)))
  split
  · exact h
  · refine Veil.filter_rel h fun row other hrow => Veil.anyLike_eq hrow fun name hmem => ?_
    exact hidden_eq_false fun heq => hclean.searchable (heq ▸ hmem)

theorem veiled_entityList : Veiled host (entityList host entity search) := by
  refine alike_requireDefinition.bind fun definition _ hdef => ?_
  obtain ⟨rfl, hclean⟩ := hdef
  refine alike_tableRows.bind fun rows others h => alike_pure ?_
  exact Veil.map_eq (searchRows_rel hclean h) fun row other hrow =>
    rowToJsonMap_eq hrow hclean.select

theorem veiled_comboList : Veiled host (comboList host entity) := by
  refine alike_requireDefinition.bind fun definition _ hdef => ?_
  obtain ⟨rfl, hclean⟩ := hdef
  refine alike_tableRows.bind fun rows others h => ?_
  have hlabel {name : String} (hname : name ≠ "senha_hash") :
      (hashVeil host).hidden definition.table name = false :=
    hidden_eq_false hname
  dsimp only
  rw [Veil.mapM_eq (Veil.sorted_rel (Veil.map_rel h fun row other hrow name => ?_)
    (hlabel (by decide))) fun row other hrow => ?_]
  · exact veiled_ofExcept
  · split
    · rw [hrow.apply (hlabel hclean.label)]
      exact Veil.values_refl
    · exact hrow name
  · unfold readInt readText invalidColumnType
    rw [hrow.apply (hlabel (by decide)), hrow.apply (hlabel (by decide))]

theorem veiled_entitySave : Veiled host (entitySave host entity payload) := by
  refine alike_requireDefinition.bind fun definition _ hdef => ?_
  obtain ⟨rfl, hclean⟩ := hdef
  refine veiled_checkRequired.bind_eq fun _ => ?_
  refine veiled_upsertRecord.bind_eq fun recordId => ?_
  refine alike_tableRows.bind fun rows others h => ?_
  have hrow := Veil.find?_rel h (p := fun row => row "id" = .integer recordId)
    (q := fun row => row "id" = .integer recordId) fun row other hrow => by
      rw [hrow.apply (hidden_eq_false (by decide))]
  generalize rows.find? _ = found, others.find? _ = found' at hrow ⊢
  cases hrow with
  | none => exact veiled_throw
  | some hrow =>
    dsimp only
    rw [rowToJsonMap_eq hrow hclean.select]
    exact veiled_writeAudit.bind_eq fun _ => veiled_enqueueSync.bind_eq fun _ => veiled_pure

theorem veiled_entityDelete : Veiled host (entityDelete host entity id) := by
  refine alike_requireDefinition.bind fun definition _ hdef => ?_
  obtain ⟨rfl, -⟩ := hdef
  refine (veiled_deleteBy (by decide)).bind_eq fun affected => ?_
  apply alike_ite Iff.rfl
  · intro _
    exact veiled_writeAudit.bind_eq fun _ => veiled_enqueueSync.bind_eq fun _ => veiled_pure
  · intro _
    exact veiled_pure

theorem veiled_providerForState : Veiled host (providerForState host) := by
  unfold providerForState
  dsimp only
  split
  · exact veiled_throw
  · exact veiled_pure

theorem veiled_providerConnect : Veiled host (providerConnect host driver) := by
  unfold providerConnect
  split
  · exact veiled_pure
  · split
    · exact veiled_ofExcept
    · exact veiled_throw

variable {table : Table}

theorem providerRow_eq {columns : List String} {row other : Row}
    (h : (hashVeil host).Rows table row other) (hcolumns : "senha_hash" ∉ columns) :
    providerRow host driver columns row = providerRow host driver columns other := by
  unfold providerRow
  cases driver.place with
  | file => exact rowToJsonMap_eq h hcolumns
  | server =>
    apply List.map_congr_left
    intro column hmem
    have hcolumn : column ≠ "senha_hash" := fun heq => hcolumns (heq ▸ hmem)
    rw [h.apply (hidden_eq_false hcolumn)]

theorem veiled_providerList : Veiled host (providerList host driver entity search) := by
  refine alike_requireDefinition.bind fun definition _ hdef => ?_
  obtain ⟨rfl, hclean⟩ := hdef
  refine veiled_providerConnect.bind_eq fun _ => ?_
  refine alike_tableRows.bind fun rows others h => alike_pure ?_
  exact Veil.map_eq (searchRows_rel hclean h) fun row other hrow =>
    providerRow_eq hrow hclean.select

theorem veiled_providerGet : Veiled host (providerGet host driver entity id) := by
  refine alike_requireDefinition.bind fun definition _ hdef => ?_
  obtain ⟨rfl, hclean⟩ := hdef
  refine veiled_providerConnect.bind_eq fun _ => ?_
  refine alike_tableRows.bind fun rows others h => alike_pure ?_
  exact Veil.map_option_eq (Veil.find?_rel h fun row other hrow => by
    rw [hrow.apply (hidden_eq_false (by decide))])
    fun row other hrow => providerRow_eq hrow hclean.select

theorem veiled_providerInsertAudit {action : String} {recordId : ℤ} {payload : Value} :
    Veiled host (providerInsertAudit host driver entity action recordId payload) :=
  veiled_providerConnect.bind_eq fun _ => veiled_insertRow.bind_eq fun _ => veiled_pure

theorem veiled_providerEnqueueSync {action : String} {recordId : ℤ} {payload : Value} :
    Veiled host (providerEnqueueSync host driver entity action recordId payload) :=
  veiled_providerConnect.bind_eq fun _ => veiled_insertRow.bind_eq fun _ => veiled_pure

theorem veiled_providerSave : Veiled host (providerSave host driver entity payload) := by
  refine alike_requireDefinition.bind fun definition _ hdef => ?_
  obtain ⟨rfl, -⟩ := hdef
  refine veiled_checkRequired.bind_eq fun _ => ?_
  refine veiled_providerConnect.bind_eq fun _ => ?_
  refine veiled_upsertRecord.bind_eq fun written => ?_
  refine veiled_providerGet.bind_eq fun found => ?_
  cases found with
  | none => exact veiled_throw
  | some saved =>
    exact veiled_providerInsertAudit.bind_eq fun _ =>
      veiled_providerEnqueueSync.bind_eq fun _ => veiled_pure

theorem veiled_providerDelete : Veiled host (providerDelete host driver entity id) := by
  refine alike_requireDefinition.bind fun definition _ hdef => ?_
  obtain ⟨rfl, -⟩ := hdef
  refine veiled_providerConnect.bind_eq fun _ => ?_
  refine (veiled_deleteBy (by decide)).bind_eq fun affected => ?_
  apply alike_ite Iff.rfl
  · intro _
    exact veiled_providerInsertAudit.bind_eq fun _ =>
      veiled_providerEnqueueSync.bind_eq fun _ => veiled_pure
  · intro _
    exact veiled_pure

theorem veiled_entityProviderList : Veiled host (entityProviderList host entity search) :=
  veiled_providerForState.bind_eq fun _ => veiled_providerList

theorem veiled_providerEntityGet : Veiled host (providerEntityGet host entity id) :=
  veiled_providerForState.bind_eq fun _ => veiled_providerGet

theorem veiled_providerEntityCreate : Veiled host (providerEntityCreate host entity payload) :=
  veiled_providerForState.bind_eq fun _ => veiled_providerSave

theorem veiled_providerEntityUpdate : Veiled host (providerEntityUpdate host entity payload) :=
  alike_ite Iff.rfl (fun _ => veiled_throw) fun _ =>
    veiled_providerForState.bind_eq fun _ => veiled_providerSave

theorem veiled_providerEntityDelete : Veiled host (providerEntityDelete host entity id) :=
  veiled_providerForState.bind_eq fun _ => veiled_providerDelete

open Access

theorem veiled_ensureMaster : Veiled host (ensureMaster host token) :=
  veiled_requireSessionByToken.bind_eq fun _ =>
    alike_ite Iff.rfl (fun _ => veiled_pure) fun _ => veiled_throw

theorem veiled_loadLoginMinLength : Veiled host loadLoginMinLength := by
  refine alike_get.bind fun s s' hs => ?_
  unfold storedLoginMinLength
  rw [rows_eq (hs .file) (show Table.appSettings ≠ .usuarios by decide)]
  exact veiled_ofExcept.bind_eq fun _ => veiled_pure

theorem veiled_userPolicyGet : Veiled host (userPolicyGet host token) :=
  veiled_ensureMaster.bind_eq fun _ => veiled_loadLoginMinLength.bind_eq fun _ => veiled_pure

variable {label : String}

theorem veiled_upsertSetting {key value : String} :
    Veiled host (upsertSetting host key value label) :=
  (veiled_tableRows (by decide)).bind_eq fun _ =>
    alike_ite Iff.rfl
      (fun _ => (veiled_updateRows (by decide)).bind_eq fun _ => veiled_pure)
      fun _ => veiled_insertRow.bind_eq fun _ => veiled_pure

theorem veiled_userPolicySave : Veiled host (userPolicySave host token payload) := by
  refine veiled_ensureMaster.bind_eq fun actorId => ?_
  split
  · exact veiled_throw
  · apply alike_ite Iff.rfl
    · intro _
      exact veiled_throw
    · intro _
      exact veiled_upsertSetting.bind_eq fun _ => veiled_writeAudit.bind_eq fun _ => veiled_pure

theorem veiled_permissionCatalog : Veiled host (Access.permissionCatalog host token) :=
  veiled_requireSessionByToken.bind_eq fun _ => veiled_pure

theorem veiled_profileList {filters : List (String × Value)} :
    Veiled host (profileList host token filters) := by
  refine veiled_requireSessionByToken.bind_eq fun _ => ?_
  refine alike_get.bind fun s s' hs => ?_
  have hrows (table : Table) (htable : table ≠ .usuarios) := rows_eq (hs .file) htable
  dsimp only
  rw [hrows .perfisAcesso (by decide), hrows .usuariosPerfis (by decide),
    hrows .perfisPermissoes (by decide)]
  exact veiled_pure

theorem veiled_profileRecord : Veiled host (profileRecord host id) := by
  refine alike_get.bind fun s s' hs => ?_
  have hrows (table : Table) (htable : table ≠ .usuarios) := rows_eq (hs .file) htable
  dsimp only
  rw [hrows .perfisAcesso (by decide), hrows .perfisPermissoes (by decide)]
  split
  · exact veiled_throw
  · exact veiled_ofExcept.bind_eq fun _ => veiled_pure

theorem veiled_profileGet : Veiled host (profileGet host token id) :=
  veiled_requireSessionByToken.bind_eq fun _ => veiled_profileRecord

theorem veiled_inserts {α : Type} {fields : α → List (String × SqlValue)} {items : List α} :
    Veiled host (items.forM fun item => do
      let _ ← insertRow host .file table (fields item) label) :=
  alike_forM (List.forall₂_same.2 fun _ _ => rfl) fun _ _ h =>
    h ▸ veiled_insertRow.bind_eq fun _ => veiled_pure

theorem veiled_profileSave : Veiled host (profileSave host token payload) := by
  refine veiled_ensureMaster.bind_eq fun actorId => ?_
  refine veiled_ofExcept.bind_eq fun input => ?_
  refine (veiled_tableRows (by decide)).bind_eq fun profiles => ?_
  apply alike_ite Iff.rfl
  · intro _
    exact veiled_throw
  · intro _
    refine veiled_upsertRecord.bind_eq fun recordId => ?_
    refine (veiled_deleteBy (by decide)).bind_eq fun _ => ?_
    refine veiled_inserts.bind_eq fun _ => ?_
    exact veiled_enqueueSync.bind_eq fun _ => veiled_writeAudit.bind_eq fun _ => veiled_profileGet

theorem veiled_profileDelete : Veiled host (profileDelete host token id) := by
  refine veiled_ensureMaster.bind_eq fun actorId => ?_
  refine (veiled_tableRows (by decide)).bind_eq fun links => ?_
  apply alike_ite Iff.rfl
  · intro _
    exact veiled_throw
  · intro _
    refine (veiled_deleteBy (by decide)).bind_eq fun _ => ?_
    refine (veiled_deleteBy (by decide)).bind_eq fun affected => ?_
    exact alike_ite Iff.rfl (fun _ => veiled_throw) fun _ =>
      veiled_writeAudit.bind_eq fun _ => veiled_pure

theorem filtered_rel {searchable : List String} {filters : List (String × Value)}
    {rows others : List Row} (hsearchable : "senha_hash" ∉ searchable)
    (h : List.Forall₂ ((hashVeil host).Rows .usuarios) rows others) :
    List.Forall₂ ((hashVeil host).Rows .usuarios) (filtered host searchable filters rows)
      (filtered host searchable filters others) := by
  refine Veil.filter_rel h fun row other hrow => ?_
  rw [Veil.anyLike_eq hrow fun name hmem =>
      hidden_eq_false fun heq => hsearchable (heq ▸ hmem),
    hrow.apply (hidden_eq_false (by decide))]

theorem veiled_userList {filters : List (String × Value)} :
    Veiled host (userList host token filters) := by
  refine veiled_requireSessionByToken.bind_eq fun _ => ?_
  refine alike_get.bind fun s s' hs => alike_pure ?_
  have hrows (table : Table) (htable : table ≠ .usuarios) := rows_eq (hs .file) htable
  have hid : (hashVeil host).hidden .usuarios "id" = false := hidden_eq_false (by decide)
  dsimp only
  rw [hrows .usuariosPerfis (by decide), hrows .perfisAcesso (by decide),
    hrows .usuariosEmpresas (by decide), hrows .empresas (by decide)]
  have hsearchable : "senha_hash" ∉ ["nome", "login", "email"] := by decide
  have hfiltered := @filtered_rel host _ filters _ _ hsearchable ((hs .file).rows .usuarios)
  refine Veil.map_eq (R := (hashVeil host).Rows .usuarios)
    (Veil.sorted_rel (Veil.map_rel (Veil.filter_rel hfiltered ?_) ?_)
      (hidden_eq_false (by decide))) fun row other hrow => rowToJsonMap_eq hrow (by decide)
  · intro row other hrow
    rw [hrow.apply hid]
  · intro row other hrow name
    unfold withColumns
    rw [hrow.apply hid]
    cases List.lookup name _ with
    | none => exact hrow name
    | some value => exact Veil.values_refl

theorem veiled_linkIds (htable : table ≠ .usuarios) {targetField : String} {userId : ℤ} :
    Veiled host (linkIds host table targetField label userId) :=
  (veiled_tableRows htable).bind_eq fun _ => veiled_ofExcept

theorem veiled_userRecord : Veiled host (userRecord host id) := by
  refine alike_get.bind fun s s' hs => ?_
  have huser := userById_rel (hs .file) id
  generalize userById (s .file) id = found, userById (s' .file) id = found' at huser ⊢
  cases huser with
  | none => exact veiled_throw
  | some hrow =>
    dsimp only
    rw [rowToJsonMap_eq hrow (by decide)]
    exact (veiled_linkIds (by decide)).bind_eq fun _ =>
      (veiled_linkIds (by decide)).bind_eq fun _ => veiled_pure

theorem veiled_userGet : Veiled host (userGet host token id) :=
  veiled_requireSessionByToken.bind_eq fun _ => veiled_userRecord

theorem checkUser_eq {db db' : Database Table} (h : (hashVeil host).Databases db db')
    (actorId loginMinLength : ℤ) (input : UserInput) :
    checkUser host db actorId loginMinLength input =
      checkUser host db' actorId loginMinLength input := by
  have htaken : (db.rows .usuarios).any (takenBy host "login" input.login input.id) =
      (db'.rows .usuarios).any (takenBy host "login" input.login input.id) :=
    Veil.any_eq (h.rows .usuarios) fun row other hrow => blind (fun _ => rfl) hrow
  unfold checkUser
  rw [htaken, rows_eq h (show Table.perfisAcesso ≠ .usuarios by decide),
    rows_eq h (show Table.empresas ≠ .usuarios by decide)]

theorem veiled_linkUser {targetField : String} {userId : ℤ} {ids : List ℤ} :
    Veiled host (linkUser host table targetField label userId ids) :=
  veiled_inserts

theorem passwordHash_rel {draw : String → Except String String} (hdraw : Salts host draw)
    {input : UserInput} :
    SameEnd (Option.Rel (NewHashes host)) (passwordHash host input)
      (passwordHash (resalted host draw) input) := by
  unfold passwordHash
  cases hpassword : input.password with
  | none =>
    cases input.id with
    | none => exact .error _
    | some id => exact .ok .none
  | some password =>
    dsimp only
    split
    · exact .error _
    · have hnew := hdraw (trimText password)
      generalize host.hashPassword (trimText password) = hash, draw (trimText password) = hash'
        at hnew ⊢
      cases hnew with
      | ok hpair => exact .ok (.some hpair)
      | error e => exact .error e

theorem fields_hashField {hash hash' : Option String}
    (h : Option.Rel (NewHashes host) hash hash') {before after : List (String × SqlValue)} :
    Fields host .file .usuarios (before ++ hashField hash ++ after)
      (before ++ hashField hash' ++ after) := by
  refine List.rel_append (List.rel_append Veil.fields_refl ?_) Veil.fields_refl
  cases h with
  | none => exact .nil
  | some hpair => exact .cons ⟨rfl, values_hash hpair⟩ .nil

theorem alike_userSave {draw : String → Except String String} (hdraw : Salts host draw) :
    Alike (Stores host) Eq (userSave host token payload)
      (userSave (resalted host draw) token payload) := by
  refine veiled_ensureMaster.bind_eq fun actorId => ?_
  refine veiled_ofExcept.bind_eq fun input => ?_
  refine veiled_loadLoginMinLength.bind_eq fun loginMinLength => ?_
  refine alike_get.bind fun s s' hs => ?_
  rw [checkUser_eq (hs .file)]
  refine veiled_ofExcept.bind_eq fun _ => ?_
  refine (alike_except (passwordHash_rel hdraw)).bind fun hash hash' hhash => ?_
  refine (alike_upsertRecord (fields_hashField hhash)
    (fields_hashField hhash)).bind_eq fun recordId => ?_
  refine (veiled_deleteBy (by decide)).bind_eq fun _ => ?_
  refine (veiled_deleteBy (by decide)).bind_eq fun _ => ?_
  refine veiled_linkUser.bind_eq fun _ => ?_
  refine veiled_linkUser.bind_eq fun _ => ?_
  exact veiled_enqueueSync.bind_eq fun _ => veiled_writeAudit.bind_eq fun _ => veiled_userGet

theorem targetIsMaster_eq {db db' : Database Table} (h : (hashVeil host).Databases db db')
    (id : ℤ) : targetIsMaster db id = targetIsMaster db' id := by
  unfold targetIsMaster
  have huser := userById_rel h id
  generalize userById db id = found, userById db' id = found' at huser ⊢
  cases huser with
  | none => rfl
  | some hrow =>
    exact blind (f := fun row => labelled "Falha ao validar usuário alvo"
      (readInt (fun _ => (row "master_user").orElse (.integer 0)) 0 "COALESCE(master_user, 0)"))
      (fun _ => rfl) hrow

theorem veiled_userDelete : Veiled host (userDelete host token id) := by
  refine veiled_ensureMaster.bind_eq fun actorId => ?_
  apply alike_ite Iff.rfl
  · intro _
    exact veiled_throw
  · intro _
    refine alike_get.bind fun s s' hs => ?_
    have hmasters := Veil.filter_rel ((hs .file).rows .usuarios)
      (p := fun user => user "master_user" = .integer 1 && user "ativo" = .integer 1)
      (q := fun user => user "master_user" = .integer 1 && user "ativo" = .integer 1)
      fun row other hrow => by
        rw [hrow.apply (hidden_eq_false (by decide)), hrow.apply (hidden_eq_false (by decide))]
    dsimp only
    rw [targetIsMaster_eq (hs .file), hmasters.length_eq]
    refine veiled_ofExcept.bind_eq fun isMaster => ?_
    apply alike_ite Iff.rfl
    · intro _
      exact veiled_throw
    · intro _
      refine (veiled_deleteBy (by decide)).bind_eq fun _ => ?_
      refine (veiled_deleteBy (by decide)).bind_eq fun affected => ?_
      exact alike_ite Iff.rfl (fun _ => veiled_throw) fun _ =>
        veiled_writeAudit.bind_eq fun _ => veiled_pure

end Tunnara.Console.Secrecy
