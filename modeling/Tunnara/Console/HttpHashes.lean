/-
# Where the hashes stay hidden over HTTP

The commands of the internal API with code of their own. Those on users read whole rows and take
the hash out of what they answer, and the saved payload may carry a new hash.
-/

import Tunnara.Console.Hashes

namespace Tunnara.Console.Secrecy

open Sql Attempt AppCommands

/-- Two records of a user. -/
def Records (record record' : List (String × Value)) : Prop :=
  removeField record "senha_hash" = removeField record' "senha_hash" ∧
    savedId record = savedId record'

variable {host : Host} {table : Table} {draw : String → Except String String} {id : ℤ} {args : Args}
  {api : ApiState} {entity : String} {payload other : List (String × Value)}

theorem veiled_tableList (htable : table ≠ .usuarios) {search : String} {searchable : List String} :
    Veiled host (tableList host table search searchable) :=
  (veiled_tableRows htable).bind_eq fun _ => veiled_pure

theorem veiled_tableRecord (htable : table ≠ .usuarios) : Veiled host (tableRecord table id) := by
  refine (veiled_tableRows htable).bind_eq fun rows => ?_
  split
  · exact veiled_throw
  · exact veiled_pure

theorem alike_tableRecord :
    Alike (Stores host) Records (tableRecord .usuarios id) (tableRecord .usuarios id) := by
  refine alike_tableRows.bind fun rows others h => ?_
  have hrow := Veil.find?_rel h (p := fun row => row "id" = .integer id)
    (q := fun row => row "id" = .integer id) fun row other hrow => by
      rw [hrow.apply (hidden_eq_false (by decide))]
  generalize rows.find? _ = found, others.find? _ = found' at hrow ⊢
  cases hrow with
  | none => exact alike_throw
  | @some row other hrow =>
    have hsaved : savedId (record .usuarios row) = savedId (record .usuarios other) :=
      blind (f := fun row => savedId (record .usuarios row)) (fun _ => rfl) hrow
    exact alike_pure ⟨removeField_record hrow, hsaved⟩

theorem veiled_writeRecord : Veiled host (writeRecord host table payload) := by
  apply alike_ite Iff.rfl
  · intro _
    exact veiled_throw
  · intro _
    split
    · exact (veiled_updateRows (by decide)).bind_eq fun _ => veiled_pure
    · exact veiled_insertRow

theorem veiled_saveRecord (htable : table ≠ .usuarios) :
    Veiled host (saveRecord host table payload) :=
  veiled_writeRecord.bind_eq fun _ => veiled_tableRecord htable

theorem veiled_deleteRecord : Veiled host (deleteRecord table id) :=
  (veiled_deleteBy (by decide)).bind_eq fun _ => veiled_pure

theorem veiled_syncLinkTable {ownerField : String} (howner : ownerField ≠ "senha_hash")
    {targetField : String} {ownerId : ℤ} {targetIds : List ℤ} :
    Veiled host (syncLinkTable host table ownerField targetField ownerId targetIds) := by
  apply alike_ite Iff.rfl
  · intro _
    exact veiled_pure
  · intro _
    exact (veiled_deleteBy howner).bind_eq fun _ => veiled_inserts

theorem veiled_authLoginHttp {login senha : String} : Veiled host (authLoginHttp host login senha) := by
  apply Alike.bind_eq
  · apply veiled_loginWith
    intro _ _ _ _
    exact veiled_pure
  · intro _
    exact veiled_pure

theorem veiled_authRestoreHttp {token : String} : Veiled host (authRestoreHttp host token) :=
  veiled_requireSessionByToken.bind_eq fun _ => veiled_buildAuthUser.bind_eq fun _ => veiled_pure

theorem alike_authChangePasswordHttp (hdraw : Salts host draw) :
    Alike (Stores host) Eq (authChangePasswordHttp host args)
      (authChangePasswordHttp (resalted host draw) args) := by
  apply alike_ite Iff.rfl
  · intro _
    exact veiled_throw
  · intro _
    refine veiled_requireSessionByToken.bind_eq fun identity => ?_
    refine currentHash_rel.bind fun hash hash' hverify => ?_
    rw [hverify]
    have hrest (verified : Bool) : Alike (Stores host) Eq
        (if !verified then throw "Senha atual inválida."
          else do
            let newHash ← ofExcept (host.hashPassword (getString args "new_password"))
            storePassword host identity.userId newHash
            return Value.bool true)
        (if !verified then throw "Senha atual inválida."
          else do
            let newHash ← ofExcept (draw (getString args "new_password"))
            storePassword host identity.userId newHash
            return Value.bool true) :=
      alike_ite Iff.rfl (fun _ => veiled_throw) fun _ =>
        (alike_except (hdraw _)).bind fun _ _ hnew =>
          (alike_storePassword hnew).bind_eq fun _ => veiled_pure
    apply alike_ite Iff.rfl
    · intro _
      exact veiled_pure.bind_eq hrest
    · intro _
      exact veiled_ofExcept.bind_eq hrest

theorem veiled_profilePermissions : Veiled host (profilePermissions host id) :=
  (veiled_tableRows (by decide)).bind_eq fun _ => veiled_ofExcept

theorem veiled_profileListHttp : Veiled host (AppCommands.profileList host args) := by
  refine (veiled_tableList (by decide)).bind_eq fun rows => ?_
  refine (alike_mapM (W := Eq) (List.forall₂_same.2 fun _ _ => rfl) fun row _ h => ?_).bind
    fun withKeys _ h => ?_
  · subst h
    unfold withPermissions
    split
    · exact veiled_pure
    · exact veiled_profilePermissions.bind_eq fun _ => veiled_pure
  · rw [List.forall₂_eq_eq_eq] at h
    exact h ▸ veiled_pure

theorem veiled_profileGetHttp : Veiled host (AppCommands.profileGet host args) :=
  (veiled_tableRecord (by decide)).bind_eq fun _ =>
    veiled_profilePermissions.bind_eq fun _ => veiled_pure

theorem veiled_profileSaveHttp : Veiled host (AppCommands.profileSave host args) := by
  refine (veiled_saveRecord (by decide)).bind_eq fun saved => ?_
  have hrest : Veiled host (do
      return Value.object (← tableRecord .perfisAcesso (savedId saved))) :=
    (veiled_tableRecord (by decide)).bind_eq fun _ => veiled_pure
  apply alike_ite Iff.rfl
  · intro _
    exact (veiled_deleteBy (by decide)).bind_eq fun _ => veiled_inserts.bind_eq fun _ => hrest
  · intro _
    exact hrest

theorem veiled_userGetHttp : Veiled host (AppCommands.userGet args) :=
  alike_tableRecord.bind fun _ _ h => h.1 ▸ veiled_pure

/-- Two payloads: the hashes in them may be two of one password. -/
abbrev Payloads (host : Host) : List (String × Value) → List (String × Value) → Prop :=
  List.Forall₂ fun field other => field.1 = other.1 ∧ (field.2 = other.2 ∨
    field.1 = "senha_hash" ∧ ∃ hash hash', field.2 = .string hash ∧ other.2 = .string hash' ∧
      NewHashes host hash hash')

theorem payloads_refl {payload : List (String × Value)} : Payloads host payload payload :=
  List.forall₂_same.2 fun _ _ => ⟨rfl, .inl rfl⟩

section

variable (h : Payloads host payload other)
include h

theorem getField_eq {name : String} (hname : name ≠ "senha_hash") :
    getField payload name = getField other name := by
  induction h with
  | nil => rfl
  | @cons field field' _ _ hfield _ ih =>
    obtain ⟨hkey, hvalue⟩ := hfield
    unfold getField at ih ⊢
    rw [List.find?_cons, List.find?_cons, hkey]
    by_cases hhit : field'.1 = name
    · rw [decide_eq_true hhit]
      rcases hvalue with hvalue | ⟨hhash, -⟩
      · exact congrArg some hvalue
      · exact absurd (hhit.symm.trans (hkey.symm.trans hhash)) hname
    · rw [decide_eq_false hhit]
      exact ih

theorem getFirst_eq {names : List String} (hnames : "senha_hash" ∉ names) :
    getFirst payload names = getFirst other names := by
  induction names with
  | nil => rfl
  | cons name names ih =>
    have hname : name ≠ "senha_hash" := fun heq => hnames (heq ▸ List.mem_cons_self)
    unfold getFirst
    rw [getField_eq h hname, ih fun hmem => hnames (List.mem_cons_of_mem _ hmem)]

omit h in
theorem setField_rel (h : Payloads host payload other) {name : String} {value value' : Value}
    (hvalue : value = value' ∨ name = "senha_hash" ∧ ∃ hash hash', value = .string hash ∧
      value' = .string hash' ∧ NewHashes host hash hash') :
    Payloads host (setField payload name value) (setField other name value') := by
  unfold setField
  rw [Veil.any_eq (q := fun field => field.1 = name) h fun field field' hfield => by
    rw [hfield.1]]
  split
  · apply Veil.map_rel h
    intro field field' hfield
    rw [hfield.1]
    split
    · exact ⟨rfl, hvalue⟩
    · exact hfield.1 ▸ hfield
  · exact List.rel_append h (.cons ⟨rfl, hvalue⟩ .nil)

theorem stamped_rel {table : Table} :
    Payloads host (stamped host table payload) (stamped host table other) := by
  have hid : recordId payload = recordId other := by
    unfold recordId payloadId
    rw [getField_eq h (by decide)]
  have hstamp {payload other : List (String × Value)} (h : Payloads host payload other)
      {name : String} (hname : name ≠ "senha_hash") : Payloads host
      (if name ∈ catalog.columnNames table && (getField payload name).isNone then
        setField payload name (.string host.now) else payload)
      (if name ∈ catalog.columnNames table && (getField other name).isNone then
        setField other name (.string host.now) else other) := by
    rw [getField_eq h hname]
    split
    · exact setField_rel h (.inl rfl)
    · exact h
  unfold stamped
  rw [hid]
  split
  · exact hstamp (hstamp h (by decide)) (by decide)
  · exact hstamp h (by decide)

theorem recordFields_rel :
    Fields host .file .usuarios (recordFields host .usuarios payload)
      (recordFields host .usuarios other) := by
  refine Veil.map_rel (Veil.filter_rel (stamped_rel h) fun field field' hfield => ?_)
    fun field field' hfield => ⟨hfield.1, ?_⟩
  · rw [hfield.1]
  · obtain ⟨hkey, hvalue | ⟨hhash, hash, hash', hvalue, hvalue', hnew⟩⟩ := hfield
    · rw [hvalue]
      exact Veil.values_refl
    · rw [hvalue, hvalue', hhash]
      unfold jsonToSqlValue
      dsimp only
      rw [hnew.1]
      split
      · exact Veil.values_refl
      · exact values_hash hnew

theorem alike_writeUser :
    Alike (Stores host) Eq (writeRecord host .usuarios payload)
      (writeRecord (resalted host draw) .usuarios other) := by
  have hfields := recordFields_rel h
  have hid : recordId payload = recordId other := by
    unfold recordId payloadId
    rw [getField_eq h (by decide)]
  unfold writeRecord
  change Alike _ _ _ (if recordFields host .usuarios other = [] then _ else _)
  rw [hid]
  apply alike_ite
  · rw [← List.length_eq_zero_iff, ← List.length_eq_zero_iff, hfields.length_eq]
  · intro _
    exact veiled_throw
  · intro _
    cases recordId other with
    | none => exact alike_insertRow hfields
    | some id => exact (alike_updateRows (by decide) hfields).bind_eq fun _ => veiled_pure

end

theorem userPayload_rel {hash hash' : Option String} (h : Option.Rel (NewHashes host) hash hash')
    {payload : List (String × Value)} :
    Payloads host (userPayload payload hash) (userPayload payload hash') := by
  have hactive {payload other : List (String × Value)} (h : Payloads host payload other) :
      Payloads host
        (if (getField payload "ativo").isSome then payload
          else setField payload "ativo" (.ofInt 1))
        (if (getField other "ativo").isSome then other
          else setField other "ativo" (.ofInt 1)) := by
    rw [getField_eq h (by decide)]
    split
    · exact h
    · exact setField_rel h (.inl rfl)
  cases h with
  | none => exact hactive payloads_refl
  | some hnew =>
    refine hactive (setField_rel (setField_rel payloads_refl ?_) (.inl rfl))
    exact .inr ⟨rfl, _, _, rfl, rfl, hnew⟩

theorem alike_userSaveHttp (hdraw : Salts host draw) :
    Alike (Stores host) Eq (AppCommands.userSave host args)
      (AppCommands.userSave (resalted host draw) args) := by
  have hrest {payload other : List (String × Value)} (h : Payloads host payload other) :
      Alike (Stores host) Eq
        (do
          let saved ← saveRecord host .usuarios payload
          syncLinkTable host .usuariosPerfis "usuario_id" "perfil_id" (savedId saved)
            (payloadProfiles payload)
          syncLinkTable host .usuariosEmpresas "usuario_id" "empresa_id" (savedId saved)
            (payloadCompanies payload)
          let row ← tableRecord .usuarios (savedId saved)
          return Value.object (removeField row "senha_hash"))
        (do
          let saved ← saveRecord (resalted host draw) .usuarios other
          syncLinkTable host .usuariosPerfis "usuario_id" "perfil_id" (savedId saved)
            (payloadProfiles other)
          syncLinkTable host .usuariosEmpresas "usuario_id" "empresa_id" (savedId saved)
            (payloadCompanies other)
          let row ← tableRecord .usuarios (savedId saved)
          return Value.object (removeField row "senha_hash")) := by
    have hprofiles : payloadProfiles payload = payloadProfiles other := by
      unfold payloadProfiles
      rw [getFirst_eq h (by decide)]
    have hcompanies : payloadCompanies payload = payloadCompanies other := by
      unfold payloadCompanies
      rw [getFirst_eq h (by decide)]
    rw [hprofiles, hcompanies]
    refine Alike.bind ((alike_writeUser h).bind_eq fun id => alike_tableRecord)
      fun saved saved' hsaved => ?_
    rw [hsaved.2]
    refine (veiled_syncLinkTable (by decide)).bind_eq fun _ => ?_
    refine (veiled_syncLinkTable (by decide)).bind_eq fun _ => ?_
    exact alike_tableRecord.bind fun _ _ h => h.1 ▸ veiled_pure
  unfold AppCommands.userSave
  dsimp only
  split
  · exact veiled_pure.bind_eq fun _ => hrest payloads_refl
  · refine Alike.bind (V := Option.Rel (NewHashes host))
      ((alike_except (hdraw _)).map fun _ _ h => .some h) fun hash hash' hhash => ?_
    exact hrest (userPayload_rel hhash)

mutual

theorem sanitizeLogValue_resalted :
    ∀ value, sanitizeLogValue (resalted host draw) value = sanitizeLogValue host value
  | .object fields => by
      rw [sanitizeLogValue, sanitizeLogValue, sanitizeFields_resalted fields]
  | .array items => by
      rw [sanitizeLogValue, sanitizeLogValue, sanitizeItems_resalted items]
  | .null | .bool _ | .number _ | .string _ => rfl

theorem sanitizeFields_resalted :
    ∀ fields, sanitizeFields (resalted host draw) fields = sanitizeFields host fields
  | [] => rfl
  | (key, value) :: fields => by
      rw [sanitizeFields, sanitizeFields, sanitizeFields_resalted fields,
        sanitizeLogValue_resalted value]
      rfl

theorem sanitizeItems_resalted :
    ∀ items, sanitizeItems (resalted host draw) items = sanitizeItems host items
  | [] => rfl
  | item :: items => by
      rw [sanitizeItems, sanitizeItems, sanitizeLogValue_resalted item,
        sanitizeItems_resalted items]

end

theorem alike_writeAppLog {input : AppLogInput} :
    Alike (Stores host) Eq (writeAppLog host input) (writeAppLog (resalted host draw) input) := by
  have hsame : sanitizeLogValue (resalted host draw) = sanitizeLogValue host :=
    funext sanitizeLogValue_resalted
  unfold writeAppLog
  rw [hsame]
  exact veiled_writeAppLog

theorem veiled_latest (htable : table ≠ .usuarios) {columns : List String} {limit : ℕ} :
    Veiled host (latest host table columns limit) :=
  (veiled_tableRows htable).bind_eq fun _ => veiled_pure

theorem veiled_runtimeSettingsLoad : Veiled host (runtimeSettingsLoad host api) := by
  refine Alike.bind_eq ?_ fun _ => veiled_pure
  refine (veiled_tableRows (by decide)).bind_eq fun rows => ?_
  split
  · exact veiled_pure
  · exact veiled_ofExcept.bind_eq fun _ => veiled_pure

theorem veiled_runtimeSettingsSave : Veiled host (runtimeSettingsSave host api args) := by
  refine Alike.bind_eq ?_ fun _ => veiled_pure
  refine (veiled_tableRows (by decide)).bind_eq fun rows => ?_
  apply alike_ite Iff.rfl
  · intro _
    exact (veiled_updateRows (by decide)).bind_eq fun _ => veiled_pure
  · intro _
    exact veiled_insertRow.bind_eq fun _ => veiled_pure

theorem veiled_listEntity {search : String} : Veiled host (listEntity host entity search) :=
  veiled_providerForState.bind_eq fun _ => veiled_providerList.bind_eq fun _ => veiled_pure

theorem veiled_getEntity : Veiled host (getEntity host entity id) := by
  refine veiled_providerForState.bind_eq fun _ => ?_
  refine veiled_providerGet.bind_eq fun found => ?_
  split
  · exact veiled_throw
  · exact veiled_pure

theorem veiled_saveEntity : Veiled host (saveEntity host entity payload) :=
  veiled_providerForState.bind_eq fun _ => veiled_providerSave.bind_eq fun _ => veiled_pure

theorem veiled_deleteEntity : Veiled host (deleteEntity host entity id) :=
  veiled_providerForState.bind_eq fun _ => veiled_providerDelete.bind_eq fun _ => veiled_pure

theorem alike_dataAnswer (hdraw : Salts host draw)
    {command : DataCommand} (h : command ≠ .userList) :
    Alike (Stores host) Eq (dataAnswer host api args command)
      (dataAnswer (resalted host draw) api args command) := by
  cases command with
  | authLogin => exact veiled_authLoginHttp
  | authRestore => exact veiled_authRestoreHttp
  | authLogout => exact (veiled_deleteBy (by decide)).bind_eq fun _ => veiled_pure
  | authChangePassword => exact alike_authChangePasswordHttp hdraw
  | profileList => exact veiled_profileListHttp
  | profileGet => exact veiled_profileGetHttp
  | profileSave => exact veiled_profileSaveHttp
  | profileDelete | userDelete | companyDelete | integrationDelete =>
    exact veiled_deleteRecord.bind_eq fun _ => veiled_pure
  | userList => exact absurd rfl h
  | userGet => exact veiled_userGetHttp
  | userSave => exact alike_userSaveHttp hdraw
  | companyList | integrationList =>
    exact (veiled_tableList (by decide)).bind_eq fun _ => veiled_pure
  | companyGet => exact (veiled_tableRecord (by decide)).bind_eq fun _ => veiled_pure
  | companySave | integrationSave =>
    exact (veiled_saveRecord (by decide)).bind_eq fun _ => veiled_pure
  | entityList => exact veiled_listEntity
  | entitySave => exact veiled_saveEntity
  | entityDelete => exact veiled_deleteEntity
  | comboList =>
    exact veiled_providerForState.bind_eq fun _ => veiled_providerList.bind_eq fun _ => veiled_pure
  | appLogWrite => exact alike_writeAppLog.bind_eq fun _ => veiled_pure
  | appLogList => exact veiled_latest (by decide)
  | appLogClear => exact (veiled_deleteRows (fun _ _ _ => rfl)).bind_eq fun _ => veiled_pure
  | integrationLogs | syncQueueList => exact veiled_latest (by decide)
  | syncQueueMarkSynced => exact (veiled_updateRows (by decide)).bind_eq fun _ => veiled_pure
  | runtimeSettingsLoad => exact veiled_runtimeSettingsLoad
  | runtimeSettingsSave => exact veiled_runtimeSettingsSave
  | providerEntityGet => exact veiled_getEntity
  | suffixList entity => exact veiled_listEntity
  | suffixGet entity => exact veiled_getEntity
  | suffixSave entity => exact veiled_saveEntity
  | suffixDelete entity => exact veiled_deleteEntity

end Tunnara.Console.Secrecy
