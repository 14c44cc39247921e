/-
# Who may do what over HTTP

On the desktop the commands on users, profiles and the protections ask for a session first, some
of them for that of a master. Their namesakes of the internal API do not: what they would show or
change is shown and changed for anyone who may call them.
-/

import Tunnara.Console.Desktop
import Tunnara.Console.Writes

namespace Tunnara.Console

open Sql Attempt AppCommands

/-- What the command of the desktop asks for before anything else. -/
inductive Demand
  | session
  | master
  deriving DecidableEq

/-- The names that the internal API and the desktop share and whose command on the desktop calls
`require_session_by_token`, with what it asks for. -/
def demands : List (String × Demand) :=
  [("permission_catalog", .session), ("profile_list", .session), ("profile_get", .session),
    ("profile_save", .master), ("profile_delete", .master), ("user_list", .session),
    ("user_get", .session), ("user_save", .master), ("user_delete", .master),
    ("user_policy_get", .master), ("user_policy_save", .master),
    ("auth_restore", .session), ("auth_change_password", .session),
    ("support_guard_status", .master), ("support_guard_provision", .master),
    ("support_guard_enable_totp", .master), ("support_guard_unlock", .master),
    ("licensing_load_settings", .session), ("licensing_save_settings", .master),
    ("licensing_device_info", .session), ("licensing_check_runtime", .session),
    ("licensing_status", .session), ("licensing_start_trial", .session),
    ("app_log_list", .session), ("app_log_clear", .master)]

/-- The names whose answers are made of users or profiles. -/
def recordNames : List String :=
  ["profile_list", "profile_get", "profile_save", "user_list", "user_get", "user_save",
    "auth_restore"]

variable (host : Host) (api : ApiState) (args : Args) (s : Store)

/-! ## The requirement -/

/-- The token among the arguments stands for a session that is accepted, of a master where one is
asked for. -/
def Admitted (demand : Demand) : Prop :=
  ∃ identity, (exec (requireSessionByToken host (getString args "session_token")) s).1 =
    .ok identity ∧ (demand = .master → identity.masterUser = true)

/-- The current password among the arguments is that of the session's user. -/
def Verified : Prop :=
  ∃ identity user hash, (exec (requireSessionByToken host (getString args "session_token")) s).1 =
      .ok identity ∧ userById (s .file) identity.userId = some user ∧
    user "senha_hash" = .text hash ∧
    host.verifyPassword (getString args "current_password") hash = .ok true

/-- The arguments carry what the command of the desktop asks for. -/
def Authorized (name : String) (demand : Demand) : Prop :=
  Admitted host args s demand ∧ (name = "auth_change_password" → Verified host args s)

/-- The command answers, and not with an empty list. -/
def Shows (m : Action Value) : Prop := ∃ value, (exec m s).1 = .ok value ∧ value ≠ .array []

/-- The command answers with users or profiles, or it changes a row. What a session notes of its
own activity does not count. -/
def Exposes (name : String) : Prop :=
  name ∈ recordNames ∧ Shows s (executeCommand host api name args) ∨
    Touches (executeCommand host api name args) s

/-! ## What there is to show or to change -/

/-- The rows that a list over HTTP selects. -/
def listedRows (table : Table) (searchable : List String) : List Row :=
  searched host table (searchFromArgs args) searchable ((s .file).rows table)

/-- The permissions of a profile are texts. -/
def Readable (id : ℤ) : Prop :=
  ∀ grant ∈ (s .file).rows .perfisPermissoes, grant "perfil_id" = .integer id →
    ∃ key, grant "permissao_chave" = .text key

/-- A new password that is long enough and can be hashed, next to a current one that is left out
or right. -/
def Changeable : Prop :=
  ∃ identity user hash newHash,
    (exec (requireSessionByToken host (getString args "session_token")) s).1 = .ok identity ∧
      userById (s .file) identity.userId = some user ∧ user "senha_hash" = .text hash ∧
      6 ≤ (getString args "new_password").utf8ByteSize ∧
      host.hashPassword (getString args "new_password") = .ok newHash ∧
      (getString args "current_password" = "" ∨
        host.verifyPassword (getString args "current_password") hash = .ok true)

/-- What a command finds to show or to change. -/
def Finds : Command → Prop
  | .data .profileList =>
    listedRows host args s .perfisAcesso ["nome", "descricao"] ≠ [] ∧
      ∀ profile ∈ listedRows host args s .perfisAcesso ["nome", "descricao"], ∀ id,
        profile "id" = .integer id → id < 2 ^ 63 → Readable s id
  | .data .profileGet =>
    Present .perfisAcesso (getI64 args "id") s ∧ Readable s (getI64 args "id")
  | .data .profileSave => Writable host .perfisAcesso (getPayload args) s
  | .data .profileDelete => Present .perfisAcesso (getI64 args "id") s
  | .data .userList => listedRows host args s .usuarios ["nome", "login", "email"] ≠ []
  | .data .userGet => Present .usuarios (getI64 args "id") s
  | .data .userSave => ∃ hash, (initialPassword (getPayload args)).mapM host.hashPassword = .ok hash ∧
      Writable host .usuarios (userPayload (getPayload args) hash) s
  | .data .userDelete => Present .usuarios (getI64 args "id") s
  | .data .appLogClear => (s .file).rows .appLogs ≠ []
  | .data .authChangePassword => Changeable host args s
  | _ => False

variable {host api args s}

/-! ## Reading -/

variable {α β : Type} {m : Action Value}

theorem exists_mapM_ok {ε : Type} {f : α → Except ε β} {xs : List α} :
    (∃ ys, xs.mapM f = .ok ys) ↔ ∀ x ∈ xs, ∃ y, f x = .ok y := by
  induction xs with
  | nil => exact ⟨fun _ x hmem => absurd hmem List.not_mem_nil, fun _ => ⟨[], rfl⟩⟩
  | cons x xs ih =>
    rw [List.forall_mem_cons, ← ih, List.mapM_cons]
    cases hx : f x with
    | error error => simp [bind, Except.bind]
    | ok y =>
      cases hxs : xs.mapM f with
      | error error => simp [bind, Except.bind]
      | ok ys => simp [bind, Except.bind, pure, Except.pure]

theorem length_of_mapM_ok {ε : Type} {f : α → Except ε β} {xs : List α} {ys : List β}
    (h : xs.mapM f = .ok ys) : ys.length = xs.length := by
  induction xs generalizing ys with
  | nil =>
    cases h
    rfl
  | cons x xs ih =>
    rw [List.mapM_cons] at h
    cases hx : f x with
    | error error =>
      rw [hx] at h
      cases h
    | ok y =>
      cases hxs : xs.mapM f with
      | error error =>
        rw [hx, hxs] at h
        cases h
      | ok rest =>
        rw [hx, hxs] at h
        cases h
        rw [List.length_cons, ih hxs, List.length_cons]

theorem exec_mapM {f : α → Action β} {g : α → Except String β} (h : ∀ a, exec (f a) s = (g a, s))
    (items : List α) : exec (items.mapM f) s = (items.mapM g, s) := by
  induction items with
  | nil => rfl
  | cons item items ih =>
    rw [List.mapM_cons, List.mapM_cons, exec_bind, h]
    cases g item with
    | error error => rfl
    | ok b =>
      dsimp only
      rw [exec_bind, ih]
      cases items.mapM g with
      | error error | ok bs => rfl

/-- `profile_permissions` as a query. -/
def permissionsOf (host : Host) (s : Store) (id : ℤ) : Except String (List String) :=
  (exec (profilePermissions host id) s).1

variable (id : ℤ) (table : Table)

theorem exec_profilePermissions :
    exec (profilePermissions host id) s = (permissionsOf host s id, s) := rfl

theorem exists_permissionsOf {id : ℤ} :
    (∃ keys, permissionsOf host s id = .ok keys) ↔ Readable s id := by
  have hquery : permissionsOf host s id = labelled "Falha ao mapear permissão"
      ((Database.sorted (host.dialect .file) "permissao_chave"
        (((s .file).rows .perfisPermissoes).filter fun grant =>
          grant "perfil_id" = .integer id)).mapM fun grant => readText grant 0 "permissao_chave") :=
    rfl
  have hlabelled {result : Except String (List String)} {label : String} :
      (∃ keys, labelled label result = .ok keys) ↔ ∃ keys, result = .ok keys := by
    cases result <;> simp [labelled]
  rw [hquery, hlabelled, exists_mapM_ok]
  constructor
  · intro h grant hmem hown
    obtain ⟨key, hkey⟩ := h grant ((List.perm_insertionSort _ _).mem_iff.2
      (List.mem_filter.2 ⟨hmem, decide_eq_true hown⟩))
    unfold readText at hkey
    cases hgrant : grant "permissao_chave" with
    | text key => exact ⟨key, rfl⟩
    | _ =>
      rw [hgrant] at hkey
      cases hkey
  · intro h grant hmem
    obtain ⟨hmem, hown⟩ := List.mem_filter.1 ((List.perm_insertionSort _ _).mem_iff.1 hmem)
    obtain ⟨key, hkey⟩ := h grant hmem (of_decide_eq_true hown)
    unfold readText
    rw [hkey]
    exact ⟨key, rfl⟩

theorem exec_tableRecord_of_present {table : Table} {id : ℤ} (h : Present table id s) :
    ∃ row, row "id" = .integer id ∧
      exec (tableRecord table id) s = (.ok (record table row), s) := by
  have hsome : (((s .file).rows table).find? fun row => row "id" = .integer id).isSome := by
    rw [List.find?_isSome]
    obtain ⟨row, hmem, hid⟩ := h
    exact ⟨row, hmem, decide_eq_true hid⟩
  obtain ⟨row, hrow⟩ := Option.isSome_iff_exists.1 hsome
  have hhit : decide (row "id" = .integer id) = true :=
    List.find?_some (p := fun row : Row => decide (row "id" = .integer id)) hrow
  refine ⟨row, of_decide_eq_true hhit, ?_⟩
  unfold tableRecord
  rw [exec_bind, exec_tableRows]
  dsimp only
  rw [hrow]
  rfl

theorem savedId_record {table : Table} {row : Row} {id : ℤ}
    (hcolumn : (catalog.columns table).head? = some Table.idColumn) (hid : row "id" = .integer id)
    (hlt : id < 2 ^ 63) : (getField (record table row) "id").bind Value.asI64 = some id := by
  obtain ⟨rest, hcolumns⟩ := List.head?_eq_some_iff.1 hcolumn
  unfold record Catalog.columnNames
  rw [hcolumns]
  change (sqlToJson (row "id")).asI64 = some id
  rw [hid]
  exact if_pos hlt

/-! ## Lists -/

/-- A record of `profile_list` with its permissions. -/
def permitted (host : Host) (s : Store) (row : List (String × Value)) :
    Except String (List (String × Value)) :=
  match (getField row "id").bind Value.asI64 with
  | none => .ok row
  | some id => (permissionsOf host s id).map fun keys =>
    setField row "permissions" (.array (keys.map .string))

theorem exec_withPermissions (row : List (String × Value)) :
    exec (withPermissions host row) s = (permitted host s row, s) := by
  unfold withPermissions permitted
  cases (getField row "id").bind Value.asI64 with
  | none => rfl
  | some id =>
    dsimp only
    rw [exec_bind, exec_profilePermissions]
    cases permissionsOf host s id with
    | error error | ok keys => rfl

/-- `profile_list` as a query. -/
def profilesOf (host : Host) (args : Args) (s : Store) :
    Except String (List (List (String × Value))) :=
  ((Database.sorted (host.dialect .file) "nome"
    (listedRows host args s .perfisAcesso ["nome", "descricao"])).map
      (record .perfisAcesso)).mapM (permitted host s)

theorem exec_tableList (searchable : List String) :
    exec (tableList host table (searchFromArgs args) searchable) s =
      (.ok ((Database.sorted (host.dialect .file) (orderColumn table)
        (listedRows host args s table searchable)).map (record table)), s) := rfl

theorem exec_profileList :
    exec (AppCommands.profileList host args) s =
      ((profilesOf host args s).map fun rows => .array (rows.map .object), s) := by
  have hloop : exec (((Database.sorted (host.dialect .file) "nome"
      (listedRows host args s .perfisAcesso ["nome", "descricao"])).map
        (record .perfisAcesso)).mapM (withPermissions host)) s = (profilesOf host args s, s) :=
    exec_mapM exec_withPermissions _
  have horder : orderColumn .perfisAcesso = "nome" := by decide
  unfold AppCommands.profileList
  rw [exec_bind, exec_tableList, horder]
  change exec (List.mapM (withPermissions host) _ >>= _) s = _
  rw [exec_bind, hloop]
  cases profilesOf host args s with
  | error error | ok rows => rfl

theorem id_of_record {row : Row} {id : ℤ}
    (h : (getField (record .perfisAcesso row) "id").bind Value.asI64 = some id) :
    row "id" = .integer id ∧ id < 2 ^ 63 := by
  change (sqlToJson (row "id")).asI64 = some id at h
  cases hid : row "id" with
  | integer n =>
    rw [hid] at h
    change (if n < 2 ^ 63 then some n else none) = some id at h
    split at h
    · rename_i hlt
      cases h
      exact ⟨rfl, hlt⟩
    · cases h
  | _ =>
    rw [hid] at h
    cases h

theorem exists_profilesOf : (∃ rows, profilesOf host args s = .ok rows) ↔
    ∀ profile ∈ listedRows host args s .perfisAcesso ["nome", "descricao"], ∀ id,
      profile "id" = .integer id → id < 2 ^ 63 → Readable s id := by
  unfold profilesOf
  rw [exists_mapM_ok]
  constructor
  · intro h profile hmem id hid hlt
    have hsaved := @savedId_record .perfisAcesso profile id rfl hid hlt
    have hlisted := (List.perm_insertionSort (fun row other : Row =>
      (host.dialect .file).sorts (row "nome") (other "nome")) _).mem_iff.2 hmem
    obtain ⟨row, hrow⟩ := h _ (List.mem_map_of_mem hlisted)
    unfold permitted at hrow
    rw [hsaved] at hrow
    dsimp only at hrow
    cases hkeys : permissionsOf host s id with
    | error error =>
      rw [hkeys] at hrow
      cases hrow
    | ok keys => exact exists_permissionsOf.1 ⟨keys, hkeys⟩
  · intro h row hmem
    obtain ⟨profile, hlisted, rfl⟩ := List.mem_map.1 hmem
    have hmem' := (List.perm_insertionSort _ _).mem_iff.1 hlisted
    cases hid : (getField (record .perfisAcesso profile) "id").bind Value.asI64 with
    | none =>
      unfold permitted
      rw [hid]
      exact ⟨_, rfl⟩
    | some id =>
      obtain ⟨hinteger, hlt⟩ := id_of_record hid
      obtain ⟨keys, hkeys⟩ := exists_permissionsOf.2 (h profile hmem' id hinteger hlt)
      unfold permitted
      rw [hid]
      dsimp only
      rw [hkeys]
      exact ⟨_, rfl⟩

theorem shows_profileList :
    Shows s (AppCommands.profileList host args) ↔ Finds host args s (.data .profileList) := by
  unfold Shows Finds
  rw [exec_profileList, ← exists_profilesOf]
  cases hrows : profilesOf host args s with
  | error error => simp [Except.map]
  | ok rows =>
    have hlength := length_of_mapM_ok hrows
    rw [List.length_map] at hlength
    have hempty : rows = [] ↔ listedRows host args s .perfisAcesso ["nome", "descricao"] = [] := by
      rw [← List.length_eq_zero_iff, hlength, ← List.length_eq_zero_iff]
      exact Iff.of_eq (congrArg (· = 0) (List.length_insertionSort _ _))
    constructor
    · rintro ⟨value, hvalue, hne⟩
      cases hvalue
      exact ⟨fun hnone => hne (by rw [hempty.2 hnone]; rfl), rows, rfl⟩
    · rintro ⟨hne, -⟩
      refine ⟨_, rfl, fun hnone => hne (hempty.1 ?_)⟩
      exact List.map_eq_nil_iff.1 (Value.array.inj hnone)

theorem exec_userList :
    exec (AppCommands.userList host args) s =
      (.ok (.array (((Database.sorted (host.dialect .file) (orderColumn .usuarios)
        (listedRows host args s .usuarios ["nome", "login", "email"])).map
          (record .usuarios)).map .object)), s) := rfl

theorem shows_userList :
    Shows s (AppCommands.userList host args) ↔ Finds host args s (.data .userList) := by
  unfold Shows
  rw [exec_userList]
  have hempty : ((Database.sorted (host.dialect .file) (orderColumn .usuarios)
      (listedRows host args s .usuarios ["nome", "login", "email"])).map
        (record .usuarios)).map Value.object = [] ↔
      listedRows host args s .usuarios ["nome", "login", "email"] = [] := by
    rw [List.map_eq_nil_iff, List.map_eq_nil_iff, ← List.length_eq_zero_iff,
      ← List.length_eq_zero_iff]
    exact Iff.of_eq (congrArg (· = 0) (List.length_insertionSort _ _))
  constructor
  · rintro ⟨value, hvalue, hne⟩ hnone
    cases hvalue
    exact hne (congrArg Value.array (hempty.2 hnone))
  · intro hne
    exact ⟨_, rfl, fun hnone => hne (hempty.1 (Value.array.inj hnone))⟩

/-! ## Single records -/

theorem asI64OrParsed_lt {value : Value} {n : ℤ} (h : asI64OrParsed value = some n) :
    n < 2 ^ 63 := by
  rcases Option.or_eq_some_iff.1 h with hread | ⟨-, hparsed⟩
  · cases value with
    | number number =>
      cases number with
      | int k =>
        change (if k < 2 ^ 63 then some k else none) = some n at hread
        split at hread
        · rename_i hlt
          cases hread
          exact hlt
        · cases hread
      | float q => cases hread
    | _ => cases hread
  · obtain ⟨text, -, hparse⟩ := Option.bind_eq_some_iff.1 hparsed
    have hrange := (Option.filter_eq_some_iff.1 hparse).2
    rw [Bool.and_eq_true] at hrange
    exact of_decide_eq_true hrange.2

theorem getI64_lt {args : Args} {key : String} : getI64 args key < 2 ^ 63 := by
  unfold getI64
  cases h : (getField args key).bind asI64OrParsed with
  | none => decide
  | some n =>
    obtain ⟨value, -, hvalue⟩ := Option.bind_eq_some_iff.1 h
    exact asI64OrParsed_lt hvalue

theorem shows_userGet :
    Shows s (AppCommands.userGet args) ↔ Finds host args s (.data .userGet) := by
  unfold Shows AppCommands.userGet
  rw [exec_bind]
  by_cases h : Present .usuarios (getI64 args "id") s
  · obtain ⟨row, -, hexec⟩ := exec_tableRecord_of_present h
    rw [hexec]
    exact ⟨fun _ => h, fun _ => ⟨_, rfl, nofun⟩⟩
  · rw [exec_tableRecord_of_absent h]
    exact ⟨fun ⟨_, hvalue, _⟩ => (nomatch hvalue), fun hpresent => absurd hpresent h⟩

theorem shows_profileGet :
    Shows s (AppCommands.profileGet host args) ↔ Finds host args s (.data .profileGet) := by
  unfold Shows Finds AppCommands.profileGet
  rw [exec_bind]
  by_cases h : Present .perfisAcesso (getI64 args "id") s
  · obtain ⟨row, hid, hexec⟩ := exec_tableRecord_of_present h
    have hsaved : savedId (record .perfisAcesso row) = getI64 args "id" := by
      unfold savedId
      rw [savedId_record rfl hid getI64_lt]
      rfl
    rw [hexec]
    dsimp only
    rw [hsaved, exec_bind, exec_profilePermissions, ← @exists_permissionsOf host]
    cases permissionsOf host s (getI64 args "id") with
    | error error =>
      exact ⟨fun ⟨_, hvalue, _⟩ => (nomatch hvalue), fun ⟨_, _, hkeys⟩ => (nomatch hkeys)⟩
    | ok keys => exact ⟨fun _ => ⟨h, keys, rfl⟩, fun _ => ⟨_, rfl, nofun⟩⟩
  · rw [exec_tableRecord_of_absent h]
    exact ⟨fun ⟨_, hvalue, _⟩ => (nomatch hvalue), fun hpresent => absurd hpresent.1 h⟩

/-! ## Saves -/

theorem not_shows_of_error {error : String} {after : Store} (h : exec m s = (.error error, after))
    : ¬ Shows s m := by
  rintro ⟨value, hvalue, -⟩
  rw [h] at hvalue
  cases hvalue

theorem exposes_save {table : Table} (htable : table ≠ .userSessions)
    {payload : List (String × Value)} {finish : List (String × Value) → Action Value}
    (hfinish : ∀ saved, Grows (finish saved)) :
    Shows s (saveRecord host table payload >>= finish) ∨
      Touches (saveRecord host table payload >>= finish) s ↔ Writable host table payload s := by
  by_cases h : Writable host table payload s
  · refine iff_of_true (.inr ?_) h
    refine Touches.bind ((touches_writeRecord htable h).bind fun id => ?_) hfinish
    exact (grows_tableRows _).bind fun rows => by
      split
      · exact grows_throw
      · exact grows_pure
  · refine iff_of_false ?_ h
    obtain ⟨error, hexec⟩ := exec_saveRecord_of_not_writable h
    have hrun : exec (saveRecord host table payload >>= finish) s = (.error error, s) := by
      rw [exec_bind, hexec]
    rintro (hshows | htouches)
    · exact not_shows_of_error hrun hshows
    · exact not_touches (fun place => by rw [hrun]) htouches

theorem grows_tableRecord {id : ℤ} : Grows (tableRecord table id) :=
  (grows_tableRows _).bind fun rows => by
    split
    · exact grows_throw
    · exact grows_pure

theorem exposes_profileSave :
    Shows s (AppCommands.profileSave host args) ∨ Touches (AppCommands.profileSave host args) s ↔
      Finds host args s (.data .profileSave) := by
  refine exposes_save (by decide) fun saved => ?_
  have hrest : Grows (do return Value.object (← tableRecord .perfisAcesso (savedId saved))) :=
    (grows_tableRecord _).bind fun _ => grows_pure
  dsimp only
  split
  · exact (grows_deleteRows _).bind fun _ => (grows_insertEach _).bind fun _ => hrest
  · exact hrest

theorem grows_syncLinkTable {ownerField targetField : String} {ownerId : ℤ} {targetIds : List ℤ} :
    Grows (syncLinkTable host table ownerField targetField ownerId targetIds) := by
  unfold syncLinkTable
  split
  · exact grows_pure
  · exact (grows_deleteRows _).bind fun _ => grows_insertEach _

theorem exposes_congr {m' : Action Value} (h : exec m s = exec m' s) :
    (Shows s m ∨ Touches m s) ↔ (Shows s m' ∨ Touches m' s) := by
  unfold Shows Touches
  rw [h]

theorem exposes_userSave :
    Shows s (AppCommands.userSave host args) ∨ Touches (AppCommands.userSave host args) s ↔
      Finds host args s (.data .userSave) := by
  have hsave (payload : List (String × Value)) := @exposes_save host s .usuarios (by decide)
    payload (fun saved => do
      syncLinkTable host .usuariosPerfis "usuario_id" "perfil_id" (savedId saved)
        (payloadProfiles payload)
      syncLinkTable host .usuariosEmpresas "usuario_id" "empresa_id" (savedId saved)
        (payloadCompanies payload)
      let row ← tableRecord .usuarios (savedId saved)
      return .object (removeField row "senha_hash"))
    fun saved => (grows_syncLinkTable _).bind fun _ =>
      (grows_syncLinkTable _).bind fun _ => (grows_tableRecord _).bind fun _ => grows_pure
  unfold Finds AppCommands.userSave
  dsimp only
  cases hpassword : initialPassword (getPayload args) with
  | none =>
    refine (hsave (userPayload (getPayload args) none)).trans ?_
    exact ⟨fun hwrite => ⟨none, rfl, hwrite⟩, fun ⟨_, hhash, hwrite⟩ => by
      cases hhash
      exact hwrite⟩
  | some password =>
    dsimp only
    cases hhash : host.hashPassword password with
    | error error =>
      refine iff_of_false ?_ ?_
      · rintro (hshows | htouches)
        · exact not_shows_of_error rfl hshows
        · exact not_touches (fun place => rfl) htouches
      · rintro ⟨hash, hmapped, -⟩
        rw [Option.mapM_some, hhash] at hmapped
        cases hmapped
    | ok hash =>
      refine (exposes_congr (s := s) ?_).trans
        ((hsave (userPayload (getPayload args) (some hash))).trans ?_)
      · rfl
      · constructor
        · intro hwrite
          refine ⟨some hash, ?_, hwrite⟩
          rw [Option.mapM_some, hhash]
          rfl
        · rintro ⟨_, hmapped, hwrite⟩
          rw [Option.mapM_some, hhash] at hmapped
          cases hmapped
          exact hwrite

/-! ## Deletes -/

theorem touches_bind_iff {m : Action α} {f : α → Action β}
    (hf : ∀ a next place, ((exec (f a) next).2 place).changes = (next place).changes) :
    Touches (m >>= f) s ↔ Touches m s := by
  have hexec : ∀ place, ((exec (m >>= f) s).2 place).changes = ((exec m s).2 place).changes := by
    intro place
    rw [exec_bind]
    cases exec m s with
    | mk result next =>
      cases result with
      | ok a => exact hf a next place
      | error error => rfl
  exact exists_congr fun place => by rw [hexec place]

theorem touches_deleteRecord {table : Table} (htable : table ≠ .empresas)
    (hsessions : table ≠ .userSessions) {id : ℤ} :
    Touches (Value.bool <$> deleteRecord table id) s ↔ Present table id s := by
  unfold deleteRecord
  rw [map_eq_pure_bind, touches_bind_iff fun _ _ _ => rfl, touches_bind_iff fun _ _ _ => rfl,
    touches_delete htable hsessions]
  exact exists_congr fun row => and_congr_right fun _ => decide_eq_true_iff

theorem touches_appLogClear :
    Touches (do
      let _ ← deleteRows .file .appLogs (fun _ => true) "Falha ao limpar logs"
      return Value.bool true) s ↔ (s .file).rows .appLogs ≠ [] := by
  rw [touches_bind_iff fun _ _ _ => rfl, touches_delete (by decide) (by decide)]
  rw [← length_pos_of_hit, List.filter_true, List.length_pos_iff]

/-! ## The own password -/

theorem updateBreach_password {db : Database Table} {id : ℤ} {hash : String} :
    db.updateBreach catalog (host.dialect .file) .usuarios "id" (.integer id)
      [("senha_hash", .text hash), ("senha_provisoria", .integer 0),
        ("updated_at", .text host.now)] = none := by
  unfold Database.updateBreach
  rw [List.findSome?_eq_none_iff]
  intro row hmem
  obtain ⟨user, -, rfl⟩ := List.mem_map.1 hmem
  rfl

theorem not_touches_of_elsewhere {m : Action α} (h : Elsewhere s (exec m s).2) : ¬ Touches m s := by
  rintro ⟨place, table, htable, hlt⟩
  rw [(h place table htable).2] at hlt
  exact lt_irrefl _ hlt

theorem exec_currentHash (label : String) (userId : ℤ) (s : Store) :
    exec (currentHash label userId) s =
      (match userById (s .file) userId with
        | none => .error (label ++ ": Query returned no rows")
        | some user => labelled label (readText user 0 "senha_hash"), s) := by
  unfold currentHash
  rw [exec_bind, exec_get]
  dsimp only
  cases userById (s .file) userId with
  | none | some user => rfl

theorem labelled_readText {user : Row} {label column : String} {index : ℕ} :
    (∃ text, user column = .text text ∧ labelled label (readText user index column) = .ok text) ∨
      (∀ text, user column ≠ .text text) ∧
        ∃ error, labelled label (readText user index column) = .error error := by
  unfold readText
  cases user column with
  | text text => exact .inl ⟨text, rfl, rfl⟩
  | _ => exact .inr ⟨nofun, _, rfl⟩

/-- What `auth_change_password_http` makes of the current password. -/
def checkedPassword (host : Host) (args : Args) (hash : String) : Except String Bool :=
  if getString args "current_password" = "" then .ok true
  else host.verifyPassword (getString args "current_password") hash

theorem checkedPassword_eq_true {hash : String} :
    checkedPassword host args hash = .ok true ↔ getString args "current_password" = "" ∨
      host.verifyPassword (getString args "current_password") hash = .ok true := by
  unfold checkedPassword
  split
  · rename_i hempty
    exact iff_of_true rfl (.inl hempty)
  · rename_i hgiven
    exact (or_iff_right hgiven).symm

theorem exec_checked {hash : String} {next : Store} {change : Action Value} :
    exec (if getString args "current_password" = "" then do
        let verified ← pure true
        if !verified then throw "Senha atual inválida." else change
      else do
        let verified ← ofExcept (host.verifyPassword (getString args "current_password") hash)
        if !verified then throw "Senha atual inválida." else change) next =
      match checkedPassword host args hash with
      | .ok true => exec change next
      | .ok false => (.error "Senha atual inválida.", next)
      | .error error => (.error error, next) := by
  unfold checkedPassword
  split
  · rfl
  · rw [exec_bind, exec_ofExcept]
    cases host.verifyPassword (getString args "current_password") hash with
    | error error => rfl
    | ok verified => cases verified <;> rfl

theorem touches_storePassword {identity : SessionIdentity} {user : Row} {next : Store}
    {newHash : String} (h : Elsewhere s next)
    (huser : userById (next .file) identity.userId = some user) :
    ∃ place table, table ≠ .userSessions ∧ (s place).changes table <
      ((exec (do
        storePassword host identity.userId newHash
        return Value.bool true) next).2 place).changes table := by
  have hhit := List.find?_some (p := fun user : Row => user "id" = .integer identity.userId) huser
  have hpresent : Present .usuarios identity.userId next :=
    ⟨user, List.mem_of_find?_eq_some huser, of_decide_eq_true hhit⟩
  have htouches : Touches (do
      storePassword host identity.userId newHash
      return Value.bool true) next :=
    ((touches_updateRows (by decide) hpresent updateBreach_password).bind
      fun _ => grows_pure).bind fun _ => grows_pure
  obtain ⟨place, table, htable, hlt⟩ := htouches
  exact ⟨place, table, htable, (h place table htable).2 ▸ hlt⟩

theorem touches_changePassword :
    Touches (authChangePasswordHttp host args) s ↔ Finds host args s (.data .authChangePassword) := by
  unfold authChangePasswordHttp Finds Changeable
  by_cases hshort : (getString args "new_password").utf8ByteSize < 6
  · rw [if_pos hshort]
    refine iff_of_false (not_touches_of_elsewhere (Elsewhere.refl s)) ?_
    rintro ⟨_, _, _, _, -, -, -, hlong, -⟩
    exact absurd hshort (Nat.not_lt.2 hlong)
  · rw [if_neg hshort]
    have helsewhere := @elsewhere_requireSession host (getString args "session_token") s
    cases hsession : exec (requireSessionByToken host (getString args "session_token")) s with
    | mk result next =>
      rw [hsession] at helsewhere
      cases result with
      | error error =>
        refine iff_of_false (not_touches_of_elsewhere ?_) nofun
        rw [exec_bind, hsession]
        exact helsewhere
      | ok identity =>
        have huser : userById (s .file) identity.userId = userById (next .file) identity.userId := by
          unfold userById
          rw [(helsewhere .file .usuarios (by decide)).1]
        have hstill : ¬ ∃ place table, table ≠ .userSessions ∧
            (s place).changes table < (next place).changes table := by
          rintro ⟨place, table, htable, hlt⟩
          rw [(helsewhere place table htable).2] at hlt
          exact lt_irrefl _ hlt
        unfold Touches
        rw [exec_bind, hsession]
        dsimp only
        rw [exec_bind, exec_currentHash, ← huser]
        cases hfound : userById (s .file) identity.userId with
        | none =>
          refine iff_of_false hstill ?_
          rintro ⟨_, _, _, _, heq, hsome, -⟩
          cases heq
          rw [hfound] at hsome
          cases hsome
        | some user =>
          dsimp only
          rcases @labelled_readText user "Falha ao carregar senha atual" "senha_hash" 0 with
            ⟨hash, hhash, hread⟩ | ⟨hnone, error, hread⟩
          · rw [hread]
            dsimp only
            rw [exec_checked]
            have hfinds : (∃ identity' user' hash' newHash,
                (Except.ok identity : Except String SessionIdentity) = .ok identity' ∧
                  userById (s .file) identity'.userId = some user' ∧
                  user' "senha_hash" = .text hash' ∧
                  6 ≤ (getString args "new_password").utf8ByteSize ∧
                  host.hashPassword (getString args "new_password") = .ok newHash ∧
                  (getString args "current_password" = "" ∨ host.verifyPassword
                    (getString args "current_password") hash' = .ok true)) ↔
                checkedPassword host args hash = .ok true ∧
                  ∃ newHash, host.hashPassword (getString args "new_password") =
                    .ok newHash := by
              rw [checkedPassword_eq_true]
              constructor
              · rintro ⟨_, _, hash', newHash, heq, hsome, hhash', -, hnew, hright⟩
                cases heq
                cases hfound.symm.trans hsome
                cases hhash.symm.trans hhash'
                exact ⟨hright, newHash, hnew⟩
              · rintro ⟨hright, newHash, hnew⟩
                exact ⟨identity, user, hash, newHash, rfl, hfound, hhash,
                  Nat.not_lt.1 hshort, hnew, hright⟩
            rw [hfinds]
            cases hchecked : checkedPassword host args hash with
            | error error => exact iff_of_false hstill nofun
            | ok verified =>
              cases verified with
              | false => exact iff_of_false hstill nofun
              | true =>
                rw [exec_bind, exec_ofExcept]
                cases hnew : host.hashPassword (getString args "new_password") with
                | error error => exact iff_of_false hstill nofun
                | ok newHash =>
                  refine iff_of_true ?_ ⟨rfl, newHash, rfl⟩
                  exact touches_storePassword helsewhere (huser ▸ hfound)
          · rw [hread]
            refine iff_of_false hstill ?_
            rintro ⟨_, _, hash, _, heq, hsome, hhash, -⟩
            cases heq
            cases hfound.symm.trans hsome
            exact hnone hash hhash

/-! ## Every name -/

theorem not_touches_of_reads (h : Reads m) : ¬ Touches m s :=
  not_touches fun place => by rw [h s]

theorem authRestore_admitted (h : Shows s (authRestoreHttp host (getString args "session_token"))) :
    Admitted host args s .session := by
  obtain ⟨value, hvalue, -⟩ := h
  unfold authRestoreHttp at hvalue
  rw [exec_bind] at hvalue
  unfold Admitted
  cases hsession : exec (requireSessionByToken host (getString args "session_token")) s with
  | mk result next =>
    rw [hsession] at hvalue
    cases result with
    | error error => cases hvalue
    | ok identity => exact ⟨identity, rfl, nofun⟩

theorem not_touches_authRestore :
    ¬ Touches (authRestoreHttp host (getString args "session_token")) s := by
  apply not_touches_of_elsewhere
  have helsewhere := @elsewhere_requireSession host (getString args "session_token") s
  unfold authRestoreHttp
  rw [exec_bind]
  cases hsession : exec (requireSessionByToken host (getString args "session_token")) s with
  | mk result next =>
    rw [hsession] at helsewhere
    cases result with
    | error error => exact helsewhere
    | ok identity =>
      have hrest := ((@reads_buildAuthUser host identity.userId).bind fun user =>
        reads_pure (LoginResponse.mk true "Sessão restaurada."
          (some (getString args "session_token")) (some user)).toValue) next
      rw [hrest]
      exact helsewhere

theorem reads_tableRecord {id : ℤ} : Reads (tableRecord table id) := by
  intro s
  by_cases h : Present table id s
  · obtain ⟨row, -, hexec⟩ := exec_tableRecord_of_present h
    rw [hexec]
  · rw [exec_tableRecord_of_absent h]

theorem exposes_fixed {name : String} {command : FixedCommand}
    (hname : Command.ofName name = .fixed command) (hrecords : name ∉ recordNames) :
    Exposes host api args s name ↔ Finds host args s (Command.ofName name) := by
  rw [hname]
  refine iff_of_false ?_ nofun
  unfold Exposes executeCommand
  rw [hname]
  rintro (⟨hrecord, -⟩ | htouches)
  · exact hrecords hrecord
  · exact not_touches_of_reads reads_ofExcept htouches

section Names

variable {name : String} {command : DataCommand} (hname : Command.ofName name = .data command)
include hname

theorem exposes_data : Exposes host api args s name ↔
    name ∈ recordNames ∧ Shows s (dataAnswer host api args command) ∨
      Touches (dataAnswer host api args command) s := by
  unfold Exposes executeCommand
  rw [hname]

theorem exposes_shown (hrecords : name ∈ recordNames)
    (hreads : ¬ Touches (dataAnswer host api args command) s)
    (hshows : Shows s (dataAnswer host api args command) ↔ Finds host args s (.data command)) :
    Exposes host api args s name ↔ Finds host args s (Command.ofName name) := by
  rw [exposes_data hname, hname, or_iff_left hreads, and_iff_right hrecords, hshows]

theorem exposes_saved (hrecords : name ∈ recordNames)
    (hsaves : Shows s (dataAnswer host api args command) ∨
      Touches (dataAnswer host api args command) s ↔ Finds host args s (.data command)) :
    Exposes host api args s name ↔ Finds host args s (Command.ofName name) := by
  rw [exposes_data hname, hname, and_iff_right hrecords, hsaves]

theorem exposes_changed (hrecords : name ∉ recordNames)
    (htouches : Touches (dataAnswer host api args command) s ↔ Finds host args s (.data command)) :
    Exposes host api args s name ↔ Finds host args s (Command.ofName name) := by
  rw [exposes_data hname, hname, or_iff_right fun h => hrecords h.1, htouches]

end Names

theorem exposes_iff : ∀ entry ∈ demands, entry.1 ≠ "auth_restore" →
    (Exposes host api args s entry.1 ↔ Finds host args s (Command.ofName entry.1)) := by
  simp only [demands, List.forall_mem_cons]
  refine ⟨?_, fun _ => ?profileList, fun _ => ?profileGet, fun _ => ?profileSave,
    fun _ => ?profileDelete, fun _ => ?userList, fun _ => ?userGet, fun _ => ?userSave,
    fun _ => ?userDelete, ?_, ?_, absurd rfl, fun _ => ?changePassword, ?_, ?_, ?_, ?_,
    ?_, ?_, ?_, ?_, ?_, ?_, fun _ => ?appLogList, fun _ => ?appLogClear, nofun⟩
  case profileList =>
    refine exposes_shown rfl (by decide) (not_touches fun place => ?_) shows_profileList
    exact congrArg (fun run => (run.2 place).changes) exec_profileList
  case profileGet =>
    refine exposes_shown rfl (by decide) (not_touches_of_reads ?_) shows_profileGet
    exact (reads_tableRecord _).bind fun row => Reads.bind (fun _ => rfl) fun keys => reads_pure _
  case profileSave => exact exposes_saved rfl (by decide) exposes_profileSave
  case profileDelete =>
    exact exposes_changed rfl (by decide) (touches_deleteRecord (by decide) (by decide))
  case userList =>
    exact exposes_shown rfl (by decide) (not_touches fun place => rfl) shows_userList
  case userGet =>
    refine exposes_shown rfl (by decide) (not_touches_of_reads ?_) shows_userGet
    exact (reads_tableRecord _).bind fun row => reads_pure _
  case userSave => exact exposes_saved rfl (by decide) exposes_userSave
  case userDelete =>
    exact exposes_changed rfl (by decide) (touches_deleteRecord (by decide) (by decide))
  case changePassword =>
    exact exposes_changed rfl (by decide) (@touches_changePassword host args s)
  case appLogList =>
    exact exposes_changed rfl (by decide) (iff_of_false (not_touches fun place => rfl) nofun)
  case appLogClear => exact exposes_changed rfl (by decide) touches_appLogClear
  all_goals exact fun _ => exposes_fixed rfl (by decide)

/-- Over HTTP a command that the desktop guards is guarded as much exactly where it finds nothing
or the arguments carry what the desktop asks for. -/
theorem guarded_as_desktop_iff (name : String) (demand : Demand) (hmem : (name, demand) ∈ demands) :
    (Exposes host api args s name → Authorized host args s name demand) ↔
      (Finds host args s (Command.ofName name) → Authorized host args s name demand) := by
  by_cases hrestore : name = "auth_restore"
  · subst hrestore
    have hdemand : demand = .session := by
      simpa [demands] using hmem
    subst hdemand
    have hname : Command.ofName "auth_restore" = .data .authRestore := by decide
    refine iff_of_true (fun hexposes => ?_) (hname ▸ nofun)
    rw [exposes_data hname] at hexposes
    rcases hexposes with ⟨-, hshows⟩ | htouches
    · exact ⟨authRestore_admitted hshows, fun h => absurd h (by decide)⟩
    · exact absurd htouches not_touches_authRestore
  · rw [exposes_iff _ hmem hrestore]

/-- Without a session the policy is neither to be shown nor shown. -/
theorem guarded_as_desktop_policy :
    ¬ Authorized plainHost [] oneUser "user_policy_get" .master ∧
      ¬ Exposes plainHost plainApi [] oneUser "user_policy_get" := by
  have hunauthorized : ¬ Authorized plainHost [] oneUser "user_policy_get" .master := by
    rintro ⟨⟨identity, hidentity, -⟩, -⟩
    cases hidentity
  refine ⟨hunauthorized, fun hexposes => hunauthorized ?_⟩
  exact (guarded_as_desktop_iff "user_policy_get" .master (by decide)).2 nofun hexposes

def signedIn : Store := fileWith fun table =>
  if table = .usuarios then [ana]
  else if table = .userSessions then
    [rowOf [("id", .integer 1), ("usuario_id", .integer 1), ("session_token", .text "f00d"),
      ("expires_at", .text "2026-01-08T00:00:00Z"), ("last_activity_at", .text "")]]
  else []

def newPassword : Args := [("session_token", .string "f00d"), ("new_password", .string "novasenha")]

/-- The users are listed for a request without a session, and a password is changed for one that
does not know it. -/
theorem not_guarded_as_desktop :
    ¬ (Exposes plainHost plainApi [] oneUser "user_list" →
        Authorized plainHost [] oneUser "user_list" .session) ∧
      ¬ (Exposes plainHost plainApi newPassword signedIn "auth_change_password" →
        Authorized plainHost newPassword signedIn "auth_change_password" .session) := by
  constructor
  · intro h
    obtain ⟨⟨identity, hidentity, -⟩, -⟩ := h (.inl ⟨by decide, _, rfl, nofun⟩)
    cases hidentity
  · intro h
    have htouches : ((signedIn .file).changes .usuarios) <
        ((exec (executeCommand plainHost plainApi "auth_change_password" newPassword)
          signedIn).2 .file).changes .usuarios := by
      decide +kernel
    obtain ⟨-, hverified⟩ := h (.inr ⟨.file, .usuarios, by decide, htouches⟩)
    obtain ⟨identity, user, hash, -, huser, hhash, hright⟩ := hverified rfl
    have hana : user = ana := List.mem_singleton.1 (List.mem_of_find?_eq_some huser)
    subst hana
    have hsalt : hash = "salt$segredo" := (SqlValue.text.inj hhash).symm
    subst hsalt
    exact absurd hright (by decide +kernel)

end Tunnara.Console
