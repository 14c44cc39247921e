/-
# The last master

`user_save` and `user_delete` ask for a master's session. A master may not deactivate or delete
itself, and the last active master may not be deleted; that a save may take `master_user` from
the only master is not checked.

A run is a list of calls, each with the process that it runs in: its clock, its salts and its
database. What a call has written before an error stays.
-/

import Tunnara.Console.Spared
import Tunnara.Console.Statements

namespace Tunnara.Console

open Sql Attempt Transition Access

inductive AccessCall
  | userSave (sessionToken : String) (payload : List (String × Value))
  | userDelete (sessionToken : String) (id : ℤ)

/-- The tables after a call. -/
def accessStep (s : Store) (event : Host × AccessCall) : Store :=
  match event.2 with
  | .userSave sessionToken payload => (exec (userSave event.1 sessionToken payload) s).2
  | .userDelete sessionToken id => (exec (userDelete event.1 sessionToken id) s).2

def ActiveMaster (user : Row) : Prop :=
  user "master_user" = .integer 1 ∧ user "ativo" = .integer 1

instance (user : Row) : Decidable (ActiveMaster user) := inferInstanceAs (Decidable (_ ∧ _))

/-- **The promise**: there is an active master. -/
def HasMaster (s : Store) : Prop := ∃ user ∈ rowsOf .usuarios s, ActiveMaster user

/-- `PRIMARY KEY`. -/
def Keyed (table : Table) (s : Store) : Prop := ((rowsOf table s).map fun row => row "id").Nodup

section

variable (host : Host)

/-- The checks of `user_save`: the actor, the input and the new hash. -/
def admitUser (sessionToken : String) (payload : List (String × Value)) :
    Action (ℤ × UserInput × Option String) := do
  let actorId ← ensureMaster host sessionToken
  let input ← ofExcept (readUser host payload)
  let loginMinLength ← loadLoginMinLength
  ofExcept (checkUser host ((← get) .file) actorId loginMinLength input)
  let hash ← ofExcept (passwordHash host input)
  return (actorId, input, hash)

/-- The columns that an update writes. -/
def updatedFields (input : UserInput) (hash : Option String) : List (String × SqlValue) :=
  input.fields ++ hashField hash ++ [("updated_at", .text host.now)]

/-- The columns that an insert writes. -/
def insertedFields (input : UserInput) (hash : Option String) : List (String × SqlValue) :=
  input.fields ++ hashField hash ++ [("created_at", .text host.now), ("updated_at", .text host.now)]

/-- The links, the queue, the audit and the answer. -/
def finishUser (sessionToken : String) (actorId : ℤ) (input : UserInput) (recordId : ℤ) :
    Action (List (String × Value)) := do
  let _ ← deleteRows .file .usuariosPerfis (fun link => link "usuario_id" = .integer recordId)
    "Falha ao limpar perfis do usuário"
  let _ ← deleteRows .file .usuariosEmpresas (fun link => link "usuario_id" = .integer recordId)
    "Falha ao limpar empresas do usuário"
  linkUser host .usuariosPerfis "perfil_id" "Falha ao vincular perfil ao usuário" recordId
    input.profileIds
  linkUser host .usuariosEmpresas "empresa_id" "Falha ao vincular empresa ao usuário" recordId
    input.empresaIds
  let payloadJson := Value.object
    [("administrador", .ofInt input.administrador), ("ativo", .ofInt input.ativo),
      ("id", .ofInt recordId), ("login", .string input.login),
      ("master_user", .ofInt input.masterUser), ("nome", .string input.nome),
      ("photo_url", .ofOption .string input.photoUrl)]
  enqueueSync host "usuarios" (actionName input.id) (some recordId) payloadJson
  writeAudit host "usuarios" (actionName input.id) (some recordId)
    (auditPayload actorId payloadJson)
  userGet host sessionToken recordId

/-- The write of the row, and what follows. -/
def storeUser (sessionToken : String) (admitted : ℤ × UserInput × Option String) :
    Action (List (String × Value)) := do
  let recordId ← upsertRecord host .file .usuarios admitted.2.1.id
    (updatedFields host admitted.2.1 admitted.2.2) (insertedFields host admitted.2.1 admitted.2.2)
    "Falha ao atualizar usuário" "Falha ao inserir usuário"
  finishUser host sessionToken admitted.1 admitted.2.1 recordId

theorem userSave_eq (sessionToken : String) (payload : List (String × Value)) :
    userSave host sessionToken payload =
      admitUser host sessionToken payload >>= storeUser host sessionToken := by
  unfold admitUser
  simp only [bind_assoc, pure_bind]
  rfl

end

/-- A save that is carried out and takes `master_user` or `ativo` from the only active master. -/
def Demotes (host : Host) (sessionToken : String) (payload : List (String × Value)) (s : Store) :
    Prop :=
  ∃ actorId input hash id, (exec (admitUser host sessionToken payload) s).1 =
      .ok (actorId, input, hash) ∧ input.id = some id ∧
    (s .file).updateBreach catalog (host.dialect .file) .usuarios "id" (.integer id)
      (updatedFields host input hash) = none ∧
    (input.masterUser ≠ 1 ∨ input.ativo ≠ 1) ∧
    ∀ user ∈ rowsOf .usuarios s, ActiveMaster user → user "id" = .integer id

/-- **The condition** on a call. -/
def KeepsMaster (s : Store) (event : Host × AccessCall) : Prop :=
  match event.2 with
  | .userSave sessionToken payload => ¬ Demotes event.1 sessionToken payload s
  | .userDelete _ _ => True

variable {host : Host} {sessionToken : String} {payload : List (String × Value)} {s next : Store}
  {actorId id : ℤ} {input : UserInput} {hash : Option String}

theorem spares_admitUser {table : Table} (h : table ≠ .userSessions) :
    Spares table (admitUser host sessionToken payload) :=
  (spares_ensureMaster h).bind fun _ => spares_ofExcept.bind fun _ =>
    spares_loadLoginMinLength.bind fun _ => spares_get.bind fun _ =>
      spares_ofExcept.bind fun _ => spares_ofExcept.bind fun _ => spares_pure

theorem spares_finishUser {recordId : ℤ} :
    Spares .usuarios (finishUser host sessionToken actorId input recordId) :=
  (spares_deleteRows (by decide) (by decide)).bind fun _ =>
    (spares_deleteRows (by decide) (by decide)).bind fun _ =>
      (spares_linkUser (by decide)).bind fun _ =>
        (spares_linkUser (by decide)).bind fun _ =>
          (spares_enqueueSync (by decide)).bind fun _ =>
            (spares_writeAudit (by decide)).bind fun _ => spares_userGet (by decide)

theorem updateBreach_usuarios {fields : List (String × SqlValue)}
    (h : rowsOf .usuarios next = rowsOf .usuarios s) :
    (next .file).updateBreach catalog (host.dialect .file) .usuarios "id" (.integer id) fields =
      (s .file).updateBreach catalog (host.dialect .file) .usuarios "id" (.integer id) fields := by
  change (next .file).rows .usuarios = (s .file).rows .usuarios at h
  unfold Database.updateBreach Database.updated
  rw [h]
  rfl

theorem usuarios_userSave : rowsOf .usuarios (exec (userSave host sessionToken payload) s).2 =
    match (exec (admitUser host sessionToken payload) s).1 with
    | .error _ => rowsOf .usuarios s
    | .ok (actorId, input, hash) =>
      rowsOf .usuarios (exec (storeUser host sessionToken (actorId, input, hash))
        (exec (admitUser host sessionToken payload) s).2).2 := by
  have hadmit := @spares_admitUser host sessionToken payload .usuarios (by decide) s
  rw [userSave_eq, exec_bind]
  cases hexec : exec (admitUser host sessionToken payload) s with
  | mk result next =>
    rw [hexec] at hadmit
    cases result with
    | error error => exact hadmit
    | ok admitted => rfl

theorem assign_updatedFields (user : Row) :
    let saved := Database.assign catalog (host.dialect .file) .usuarios
      (updatedFields host input hash) user
    saved "id" = user "id" ∧ saved "master_user" = .integer input.masterUser ∧
      saved "ativo" = .integer input.ativo := by
  cases hash <;> exact ⟨rfl, rfl, rfl⟩

theorem usuarios_storeUser_of_id (hid : input.id = some id) :
    rowsOf .usuarios (exec (storeUser host sessionToken (actorId, input, hash)) s).2 =
      if (s .file).updateBreach catalog (host.dialect .file) .usuarios "id" (.integer id)
          (updatedFields host input hash) = none then
        reassigned host .usuarios id (updatedFields host input hash) (rowsOf .usuarios s)
      else rowsOf .usuarios s := by
  unfold storeUser upsertRecord
  rw [hid]
  rw [bind_assoc, exec_bind]
  cases hbreach : (s .file).updateBreach catalog (host.dialect .file) .usuarios "id" (.integer id)
      (updatedFields host input hash) with
  | some breach =>
    rw [exec_updateRows_of_breach hbreach, if_neg nofun]
  | none =>
    rw [exec_updateRows hbreach, if_pos rfl, pure_bind]
    refine (spares_finishUser _).trans ?_
    unfold rowsOf Database.write
    rw [Function.update_self]
    dsimp only
    rw [Function.update_self]
    rfl

theorem usuarios_storeUser_of_new (hid : input.id = none) :
    ∃ added : Option Row, (∀ user ∈ added, user "id" = .integer ((s .file).nextId .usuarios) ∧
        user "master_user" = .integer input.masterUser ∧ user "ativo" = .integer input.ativo ∧
        ∀ text, hash = some text → user "senha_hash" = .text text) ∧
      rowsOf .usuarios (exec (storeUser host sessionToken (actorId, input, hash)) s).2 =
        rowsOf .usuarios s ++ added.toList := by
  unfold storeUser upsertRecord insertRow
  rw [hid]
  rw [exec_bind, exec_statement]
  cases hinsert : (s .file).insert (catalogAt .file) (host.dialect .file) .usuarios
      (insertedFields host input hash) with
  | error breach => exact ⟨none, nofun, (List.append_nil _).symm⟩
  | ok result =>
    obtain ⟨recordId, after⟩ := result
    refine ⟨some (Database.newRow catalog (host.dialect .file) .usuarios
      ((s .file).nextId .usuarios) (insertedFields host input hash)), ?_, ?_⟩
    · rintro user ⟨⟩
      refine ⟨rfl, ?_, ?_, ?_⟩
      · cases hash <;> rfl
      · cases hash <;> rfl
      · rintro text rfl
        rfl
    · refine (spares_finishUser _).trans ?_
      unfold rowsOf
      rw [Function.update_self]
      unfold Database.insert at hinsert
      dsimp only at hinsert
      split at hinsert
      · cases hinsert
      · split at hinsert
        · cases hinsert
        · cases hinsert
          unfold Database.write
          dsimp only
          rw [Function.update_self]
          rfl

theorem hasMaster_reassigned_iff (rows : List Row) :
    (∃ user ∈ reassigned host .usuarios id (updatedFields host input hash) rows,
        ActiveMaster user) ↔
      (∃ user ∈ rows, ActiveMaster user ∧ user "id" ≠ .integer id) ∨
        (∃ user ∈ rows, user "id" = .integer id) ∧ input.masterUser = 1 ∧ input.ativo = 1 := by
  unfold reassigned
  simp only [List.mem_map, exists_exists_and_eq_and]
  have hsaved (user : Row) := @assign_updatedFields host input hash user
  constructor
  · rintro ⟨user, huser, hmaster⟩
    by_cases hid : user "id" = .integer id
    · rw [if_pos hid] at hmaster
      obtain ⟨-, hrank, hactive⟩ := hsaved user
      refine .inr ⟨⟨user, huser, hid⟩, ?_, ?_⟩
      · exact SqlValue.integer.inj (hrank.symm.trans hmaster.1)
      · exact SqlValue.integer.inj (hactive.symm.trans hmaster.2)
    · rw [if_neg hid] at hmaster
      exact .inl ⟨user, huser, hmaster, hid⟩
  · rintro (⟨user, huser, hmaster, hid⟩ | ⟨⟨user, huser, hid⟩, hrank, hactive⟩)
    · refine ⟨user, huser, ?_⟩
      rw [if_neg hid]
      exact hmaster
    · refine ⟨user, huser, ?_⟩
      rw [if_pos hid]
      obtain ⟨-, hsavedRank, hsavedActive⟩ := hsaved user
      exact ⟨hsavedRank.trans (by rw [hrank]), hsavedActive.trans (by rw [hactive])⟩

theorem hasMaster_userSave_iff (h : HasMaster s) :
    HasMaster (exec (userSave host sessionToken payload) s).2 ↔
      ¬ Demotes host sessionToken payload s := by
  unfold HasMaster
  rw [usuarios_userSave]
  cases hexec : exec (admitUser host sessionToken payload) s with
  | mk result next =>
    have hnext := @spares_admitUser host sessionToken payload .usuarios (by decide) s
    rw [hexec] at hnext
    cases result with
    | error error =>
      refine iff_of_true h ?_
      rintro ⟨actorId, input, hash, id, hadmitted, -⟩
      rw [hexec] at hadmitted
      cases hadmitted
    | ok admitted =>
      obtain ⟨actorId, input, hash⟩ := admitted
      dsimp only
      cases hid : input.id with
      | none =>
        obtain ⟨added, -, hadded⟩ := @usuarios_storeUser_of_new host sessionToken next
          actorId input hash hid
        rw [hadded, hnext]
        refine iff_of_true ?_ ?_
        · obtain ⟨user, huser, hmaster⟩ := h
          exact ⟨user, List.mem_append_left _ huser, hmaster⟩
        · rintro ⟨otherId, other, otherHash, id, hadmitted, hotherId, -⟩
          rw [hexec] at hadmitted
          cases hadmitted
          rw [hid] at hotherId
          cases hotherId
      | some id =>
        rw [usuarios_storeUser_of_id hid, updateBreach_usuarios hnext, hnext]
        have hdemotes : Demotes host sessionToken payload s ↔
            (s .file).updateBreach catalog (host.dialect .file) .usuarios "id" (.integer id)
              (updatedFields host input hash) = none ∧
            (input.masterUser ≠ 1 ∨ input.ativo ≠ 1) ∧
            ∀ user ∈ rowsOf .usuarios s, ActiveMaster user → user "id" = .integer id := by
          constructor
          · rintro ⟨otherId, other, otherHash, found, hadmitted, hfound, hrest⟩
            rw [hexec] at hadmitted
            cases hadmitted
            rw [hid] at hfound
            cases hfound
            exact hrest
          · exact fun hrest => ⟨actorId, input, hash, id, by rw [hexec], hid, hrest⟩
        rw [hdemotes]
        split_ifs with hbreach
        · rw [hasMaster_reassigned_iff]
          obtain ⟨user, huser, hmaster⟩ := h
          constructor
          · rintro (⟨other, hother, hothers, hne⟩ | ⟨-, hrank, hactive⟩) ⟨-, hflags, hall⟩
            · exact hne (hall other hother hothers)
            · exact hflags.elim (· hrank) (· hactive)
          · intro hkept
            by_cases hflags : input.masterUser = 1 ∧ input.ativo = 1
            · by_cases hsame : user "id" = .integer id
              · exact .inr ⟨⟨user, huser, hsame⟩, hflags⟩
              · exact .inl ⟨user, huser, hmaster, hsame⟩
            · have hnot := not_and.1 (not_and.1 hkept hbreach)
                (not_and_or.1 hflags)
              simp only [not_forall] at hnot
              obtain ⟨other, hother, hothers, hne⟩ := hnot
              exact .inl ⟨other, hother, hothers, hne⟩
        · exact iff_of_true h fun hall => hbreach hall.1

/-- The deletion of a user, once it is allowed. -/
def removeUser (host : Host) (actorId id : ℤ) : Action Bool := do
  let _ ← deleteRows .file .userSessions
    (fun session => session "usuario_id" = .integer id) "Falha ao limpar sessões do usuário"
  let affected ← deleteRows .file .usuarios (fun user => user "id" = .integer id)
    "Falha ao excluir usuário"
  if affected = 0 then throw "Usuário não encontrado."
  else do
    writeAudit host "usuarios" "delete" (some id) (.object [("actor_id", .ofInt actorId)])
    return true

theorem drops_removeUser :
    Changes (Drops .usuarios fun user => user "id" = .integer id)
      (removeUser host actorId id) := by
  refine ((spares_deleteRows (by decide) (by decide)).drops).bind (fun _ => ?_) Drops.trans
  refine drops_deleteRows.bind (fun affected => ?_) Drops.trans
  split
  · exact spares_throw.drops
  · exact ((spares_writeAudit (by decide)).bind fun _ => spares_pure).drops

theorem usuarios_userDelete : rowsOf .usuarios (exec (userDelete host sessionToken id) s).2 =
      rowsOf .usuarios s ∨
    rowsOf .usuarios (exec (userDelete host sessionToken id) s).2 =
        (rowsOf .usuarios s).filter (fun user => !decide (user "id" = .integer id)) ∧
      ∃ rank, targetIsMaster (s .file) id = .ok rank ∧ ¬ (rank = 1 ∧
        ((rowsOf .usuarios s).filter fun user =>
          user "master_user" = .integer 1 && user "ativo" = .integer 1).length ≤ 1) := by
  have hensure := @spares_ensureMaster host .usuarios (by decide) sessionToken s
  unfold userDelete
  rw [exec_bind]
  cases hexec : exec (ensureMaster host sessionToken) s with
  | mk result next =>
    rw [hexec] at hensure
    cases result with
    | error error => exact .inl hensure
    | ok actorId =>
      dsimp only
      split
      · exact .inl hensure
      · have hrank : targetIsMaster (next .file) id = targetIsMaster (s .file) id := by
          unfold targetIsMaster userById
          rw [show (next .file).rows .usuarios = (s .file).rows .usuarios from hensure]
        rw [exec_bind, exec_get]
        dsimp only
        rw [exec_bind, exec_ofExcept, hrank]
        cases htarget : targetIsMaster (s .file) id with
        | error error => exact .inl hensure
        | ok rank =>
          dsimp only
          split
          · exact .inl hensure
          · rename_i hallowed
            rcases @drops_removeUser host actorId id next with hsame | hless
            · exact .inl (hsame.trans hensure)
            · refine .inr ⟨hless.trans (by rw [hensure]), rank, rfl, ?_⟩
              rw [show (next .file).rows .usuarios = rowsOf .usuarios s from hensure]
                at hallowed
              exact hallowed

theorem userById_of_keyed (hkeyed : Keyed .usuarios s) {user : Row}
    (huser : user ∈ rowsOf .usuarios s) (hid : user "id" = .integer id) :
    userById (s .file) id = some user := by
  have hsome : (userById (s .file) id).isSome := by
    unfold userById
    rw [List.find?_isSome]
    exact ⟨user, huser, decide_eq_true hid⟩
  obtain ⟨found, hfound⟩ := Option.isSome_iff_exists.1 hsome
  have hhit := List.find?_some (p := fun user : Row => decide (user "id" = .integer id)) hfound
  rw [hfound, List.inj_on_of_nodup_map hkeyed (List.mem_of_find?_eq_some hfound) huser
    ((of_decide_eq_true hhit).trans hid.symm)]

theorem hasMaster_userDelete (h : HasMaster s) (hkeyed : Keyed .usuarios s) :
    HasMaster (exec (userDelete host sessionToken id) s).2 := by
  unfold HasMaster at *
  rcases @usuarios_userDelete host sessionToken s id with hsame | ⟨hless, rank, hrank, hallowed⟩
  · rw [hsame]
    exact h
  · obtain ⟨user, huser, hmaster⟩ := h
    rw [hless]
    by_cases hid : user "id" = .integer id
    swap
    · exact ⟨user, List.mem_filter.2 ⟨huser, by simpa using hid⟩, hmaster⟩
    -- the deleted user is a master, so the count allows it only next to another one
    have hone : rank = 1 := by
      unfold targetIsMaster at hrank
      rw [userById_of_keyed hkeyed huser hid] at hrank
      have hread : (user "master_user").orElse (.integer 0) = .integer 1 := by
        rw [hmaster.1]
        rfl
      dsimp only [readInt] at hrank
      rw [hread] at hrank
      cases hrank
      rfl
    by_contra hnone
    refine hallowed ⟨hone, ?_⟩
    have hsame : ∀ other ∈ (rowsOf .usuarios s).filter (fun user =>
        user "master_user" = .integer 1 && user "ativo" = .integer 1),
        other "id" = .integer id := by
      intro other hother
      obtain ⟨hmem, hboth⟩ := List.mem_filter.1 hother
      rw [Bool.and_eq_true, decide_eq_true_eq, decide_eq_true_eq] at hboth
      by_contra hne
      exact hnone ⟨other, List.mem_filter.2 ⟨hmem, by simpa using hne⟩, hboth⟩
    have hnodup : (((rowsOf .usuarios s).filter fun user => user "master_user" = .integer 1 &&
        user "ativo" = .integer 1).map fun row => row "id").Nodup :=
      List.Nodup.sublist (List.filter_sublist.map _) hkeyed
    have hconst : ((rowsOf .usuarios s).filter fun user => user "master_user" = .integer 1 &&
        user "ativo" = .integer 1).map (fun row => row "id") =
        List.replicate ((rowsOf .usuarios s).filter fun user =>
          user "master_user" = .integer 1 && user "ativo" = .integer 1).length (.integer id) := by
      rw [List.map_congr_left hsame, List.map_const']
    rw [hconst] at hnodup
    exact List.nodup_replicate.1 hnodup

theorem keyed_reassigned {fields : List (String × SqlValue)}
    (hassign : ∀ row, Database.assign catalog (host.dialect .file) .usuarios fields row "id" =
      row "id") (hkeyed : Keyed .usuarios s) :
    ((reassigned host .usuarios id fields (rowsOf .usuarios s)).map fun row => row "id").Nodup := by
  have hids : (reassigned host .usuarios id fields (rowsOf .usuarios s)).map
      (fun row => row "id") = (rowsOf .usuarios s).map fun row => row "id" := by
    unfold reassigned
    rw [List.map_map]
    apply List.map_congr_left
    intro user _
    dsimp only [Function.comp]
    split_ifs
    · exact hassign user
    · rfl
  rw [hids]
  exact hkeyed

theorem keyed_userSave (hkeyed : Keyed .usuarios s) :
    Keyed .usuarios (exec (userSave host sessionToken payload) s).2 := by
  unfold Keyed
  rw [usuarios_userSave]
  have hnext := @spares_admitUser host sessionToken payload .usuarios (by decide) s
  split
  · exact hkeyed
  · rename_i actorId input hash hadmitted
    cases hid : input.id with
    | none =>
      obtain ⟨added, hfresh, hadded⟩ := @usuarios_storeUser_of_new host sessionToken
        (exec (admitUser host sessionToken payload) s).2 actorId input hash hid
      rw [hadded, hnext, List.map_append]
      refine List.Nodup.append hkeyed ?_ ?_
      · cases added with
        | none => exact List.nodup_nil
        | some user => exact List.nodup_singleton _
      · rintro value hold hnew
        obtain ⟨user, huser, rfl⟩ := List.mem_map.1 hold
        obtain ⟨other, hother, hsame⟩ := List.mem_map.1 hnew
        rw [← hnext] at huser
        have hne := @id_ne_nextId _ ((exec (admitUser host sessionToken payload) s).2 .file)
          .usuarios user huser
        rw [← hsame, (hfresh other (Option.mem_toList.1 hother)).1] at hne
        exact hne rfl
    | some id =>
      rw [usuarios_storeUser_of_id hid, hnext]
      split_ifs
      · exact keyed_reassigned (fun row => (@assign_updatedFields host input hash row).1) hkeyed
      · exact hkeyed

theorem keyed_step (hkeyed : Keyed .usuarios s) {event : Host × AccessCall} :
    Keyed .usuarios (accessStep s event) := by
  obtain ⟨host, call⟩ := event
  cases call with
  | userSave sessionToken payload => exact keyed_userSave hkeyed
  | userDelete sessionToken id =>
    change ((rowsOf .usuarios (exec (userDelete host sessionToken id) s).2).map _).Nodup
    rcases @usuarios_userDelete host sessionToken s id with hsame | ⟨hless, -⟩
    · rw [hsame]
      exact hkeyed
    · rw [hless]
      exact List.Nodup.sublist (List.filter_sublist.map _) hkeyed

theorem hasMaster_step_iff (h : HasMaster s) (hkeyed : Keyed .usuarios s)
    (event : Host × AccessCall) : HasMaster (accessStep s event) ↔ KeepsMaster s event := by
  obtain ⟨host, call⟩ := event
  cases call with
  | userSave sessionToken payload => exact hasMaster_userSave_iff h
  | userDelete sessionToken id => exact iff_of_true (hasMaster_userDelete h hkeyed) trivial

/-- From every state with an active master, a run of calls keeps one throughout exactly when no
save of the run demotes the only one. -/
theorem hasMaster_throughout_iff (start : Store) (hstart : HasMaster start)
    (hkeyed : Keyed .usuarios start) (events : List (Host × AccessCall)) :
    Throughout accessStep HasMaster start events ↔ Along accessStep KeepsMaster start events := by
  have hexact := @throughout_and_along_iff _ _ accessStep (Keyed .usuarios) HasMaster Always
    KeepsMaster (fun s event hkeyed h => by
      rw [← hasMaster_step_iff h hkeyed]
      exact and_iff_left trivial)
    (fun s event hkeyed _ => keyed_step hkeyed) start events hkeyed hstart
  exact (and_iff_left (along_always _ _ _)).symm.trans hexact

def rita : Row := rowOf
  [("id", .integer 1), ("nome", .text "Rita"), ("login", .text "rita"),
    ("senha_hash", .text "salt$segredo"), ("master_user", .integer 1),
    ("administrador", .integer 0), ("senha_provisoria", .integer 0), ("ativo", .integer 1)]

def oneMaster : Store := fileWith fun table =>
  match table with
  | .usuarios => [rita]
  | .userSessions =>
    [rowOf [("id", .integer 1), ("usuario_id", .integer 1), ("session_token", .text "f00d"),
      ("expires_at", .text "2026-01-08T00:00:00Z"), ("last_activity_at", .text "")]]
  | .perfisAcesso => [rowOf [("id", .integer 1)]]
  | .empresas => [rowOf [("id", .integer 1)]]
  | _ => []

def selfDemotion : Host × AccessCall := (plainHost, .userSave "f00d"
  [("id", .ofInt 1), ("nome", .string "Rita"), ("login", .string "rita"),
    ("master_user", .bool false), ("profile_ids", .array [.ofInt 1]),
    ("empresa_ids", .array [.ofInt 1])])

instance : DecidablePred HasMaster := fun s =>
  inferInstanceAs (Decidable (∃ user ∈ rowsOf .usuarios s, ActiveMaster user))

/-- The only master can save itself as no master. -/
theorem not_hasMaster_selfDemotion :
    HasMaster oneMaster ∧ Keyed .usuarios oneMaster ∧
      ¬ Throughout accessStep HasMaster oneMaster [selfDemotion] := by
  have hstart : HasMaster oneMaster := ⟨rita, List.mem_singleton.2 rfl, rfl, rfl⟩
  refine ⟨hstart, List.nodup_singleton _, fun hkept => ?_⟩
  have hdemoted : ¬ HasMaster (accessStep oneMaster selfDemotion) := by decide +kernel
  exact hdemoted hkept.2

/-- A master that tries to delete itself stays. -/
theorem hasMaster_throughout_iff_deletion :
    Throughout accessStep HasMaster oneMaster [(plainHost, .userDelete "f00d" 1)] :=
  (hasMaster_throughout_iff oneMaster ⟨rita, List.mem_singleton.2 rfl, rfl, rfl⟩
    (List.nodup_singleton _) [(plainHost, .userDelete "f00d" 1)]).2 ⟨trivial, trivial⟩

end Tunnara.Console
