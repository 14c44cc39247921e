/-
# Sessions and logins

`require_session_by_token` is what the commands of the desktop ask before anything else. The
HTTP commands have logins of their own over the same tables.
-/

import Tunnara.Console.Store

namespace Tunnara.Console

open Sql

structure SessionIdentity where
  userId : ℤ
  masterUser : Bool
  deriving DecidableEq

structure AuthUser where
  id : ℤ
  (nome login : String)
  (email telefone cargo photoUrl : Option String)
  (administrador masterUser senhaProvisoria : Bool)
  (permissionKeys profileNames : List String)
  companyIds : List ℤ
  companyNames : List String

structure LoginResponse where
  success : Bool
  message : String
  sessionToken : Option String
  user : Option AuthUser

/-- `serde_json::to_value(user)`. -/
def AuthUser.toValue (user : AuthUser) : Value :=
  .object [("id", .ofInt user.id), ("nome", .string user.nome), ("login", .string user.login),
    ("email", .ofOption .string user.email), ("telefone", .ofOption .string user.telefone),
    ("cargo", .ofOption .string user.cargo), ("photo_url", .ofOption .string user.photoUrl),
    ("administrador", .bool user.administrador), ("master_user", .bool user.masterUser),
    ("senha_provisoria", .bool user.senhaProvisoria),
    ("permission_keys", .array (user.permissionKeys.map .string)),
    ("profile_names", .array (user.profileNames.map .string)),
    ("company_ids", .array (user.companyIds.map .ofInt)),
    ("company_names", .array (user.companyNames.map .string))]

/-- `serde_json::to_value(response)`. -/
def LoginResponse.toValue (response : LoginResponse) : Value :=
  .object [("success", .bool response.success), ("message", .string response.message),
    ("session_token", .ofOption .string response.sessionToken),
    ("user", .ofOption AuthUser.toValue response.user)]

/-- A login that was turned down. -/
def LoginResponse.refused (message : String) : LoginResponse := ⟨false, message, none, none⟩

def permissionCatalog : List (String × String) :=
  [("dashboard:view", "Visualizar dashboard"),
    ("empresas:view", "Visualizar empresas"),
    ("empresas:manage", "Gerenciar empresas"),
    ("cadastros:view", "Visualizar cadastros genéricos"),
    ("cadastros:manage", "Gerenciar cadastros genéricos"),
    ("usuarios:view", "Visualizar usuários"),
    ("usuarios:manage", "Gerenciar usuários"),
    ("perfis:view", "Visualizar perfis de acesso"),
    ("perfis:manage", "Gerenciar perfis de acesso"),
    ("config:view", "Visualizar configurações"),
    ("config:manage", "Gerenciar configurações"),
    ("licenciamento:view", "Visualizar licenciamento"),
    ("licenciamento:manage", "Gerenciar licenciamento"),
    ("logs:view", "Visualizar logs"),
    ("logs:manage", "Gerenciar logs"),
    ("sync:view", "Visualizar fila de sincronização"),
    ("relatorios:export", "Exportar relatórios")]

/-- `Vec::sort` of texts. -/
def sortTexts (texts : List String) : List String := texts.insertionSort fun a b => ¬ b < a

/-- `Vec::dedup`. -/
def dedupTexts (texts : List String) : List String := texts.destutter (· ≠ ·)

def allPermissionKeys : List String := dedupTexts (sortTexts (permissionCatalog.map Prod.fst))

def linked (links targets : List Row) (ownerField targetField : String) (owner : SqlValue) :
    List Row :=
  (links.filter fun link => link ownerField = owner).flatMap fun link =>
    targets.filter fun target => target "id" = link targetField

/-- `column > text` of stored times: texts compare byte by byte, and blobs sort behind them. -/
def isAfter (value : SqlValue) (instant : String) : Bool :=
  match value with
  | .text s => instant < s
  | .blob _ => true
  | _ => false

/-- The session of a token that has not expired, with its user. -/
def sessionOf (db : Database Table) (token now : String) : Option (Row × Row) :=
  (db.rows .userSessions).findSome? fun session =>
    if session "session_token" = .text token && isAfter (session "expires_at") now then
      ((db.rows .usuarios).find? fun user => user "id" = session "usuario_id").map fun user =>
        (session, user)
    else none

def userById (db : Database Table) (id : ℤ) : Option Row :=
  (db.rows .usuarios).find? fun user => user "id" = .integer id

/-- The columns that `build_auth_user` reads of a user; `ativo` comes last. -/
def readAuthUser (row : Row) : Except String (AuthUser × ℤ) :=
  labelled "Falha ao carregar usuário autenticado" do
    let id ← readInt row 0 "id"
    let nome ← readText row 1 "nome"
    let login ← readText row 2 "login"
    let email ← readOptionalText row 3 "email"
    let telefone ← readOptionalText row 4 "telefone"
    let cargo ← readOptionalText row 5 "cargo"
    let photoUrl ← readOptionalText row 6 "photo_url"
    let administrador ← readInt row 7 "administrador"
    let masterUser ← readInt row 8 "master_user"
    let senhaProvisoria ← readInt row 9 "senha_provisoria"
    let ativo ← readInt row 10 "ativo"
    return (AuthUser.mk id nome login email telefone cargo photoUrl (administrador = 1)
      (masterUser = 1) (senhaProvisoria = 1) [] [] [] [], ativo)

/-- The columns `usuario_id`, `master_user` and `ativo` of a session and its user. -/
def readSession (session user : Row) : Except String (ℤ × ℤ × ℤ) :=
  labelled "Falha ao validar sessão" do
    let userId ← readInt session 0 "usuario_id"
    let masterUser ← readInt user 1 "master_user"
    let ativo ← readInt user 2 "ativo"
    return (userId, masterUser, ativo)

variable (host : Host)

def buildAuthUser (userId : ℤ) : Action AuthUser := do
  let db := (← get) .file
  let dialect := host.dialect .file
  match userById db userId with
  | none => throw "Usuário da sessão não encontrado."
  | some row =>
    let base ← ofExcept (readAuthUser row)
    if base.2 = 0 then throw "Usuário inativo."
    else do
      let profiles := Database.sorted dialect "nome"
        (linked (db.rows .usuariosPerfis) (db.rows .perfisAcesso) "usuario_id" "perfil_id"
          (.integer userId))
      let profileNames ← ofExcept (labelled "Falha ao mapear perfis do usuário"
        (profiles.mapM fun profile => readText profile 0 "nome"))
      let companies := Database.sorted dialect "nome"
        (linked (db.rows .usuariosEmpresas) (db.rows .empresas) "usuario_id" "empresa_id"
          (.integer userId))
      let companyRows ← ofExcept (labelled "Falha ao mapear empresas do usuário"
        (companies.mapM fun company => do
          let id ← readInt company 0 "id"
          let nome ← readText company 1 "nome"
          return (id, nome)))
      let permissionKeys ←
        if base.1.masterUser then pure allPermissionKeys
        else do
          let links := (db.rows .usuariosPerfis).filter fun link =>
            link "usuario_id" = .integer userId
          let grants := links.flatMap fun link =>
            (db.rows .perfisPermissoes).filter fun grant => grant "perfil_id" = link "perfil_id"
          let keys ← ofExcept (labelled "Falha ao mapear permissões do usuário"
            ((Database.sorted dialect "permissao_chave" grants).mapM fun grant =>
              readText grant 0 "permissao_chave"))
          pure (dedupTexts keys)
      return { base.1 with
        permissionKeys := permissionKeys
        profileNames := profileNames
        companyIds := companyRows.map Prod.fst
        companyNames := companyRows.map Prod.snd }

def requireSessionByToken (sessionToken : String) : Action SessionIdentity := do
  let token := trimText sessionToken
  if token = "" then throw "Sessão inválida ou expirada."
  else do
    match sessionOf ((← get) .file) token host.now with
    | none => throw "Sessão inválida ou expirada."
    | some (sessionRow, user) =>
      let session ← ofExcept (readSession sessionRow user)
      if session.2.2 = 0 then throw "Usuário inativo."
      else do
        let _ ← updateRows host .file .userSessions "session_token" (.text token)
          [("last_activity_at", .text host.now)] "Falha ao atualizar atividade da sessão"
        return ⟨session.1, session.2.1 = 1⟩

/-- What the query of a login reads. -/
structure LoginRow where
  id : ℤ
  (login senhaHash : String)
  ativo : ℤ

def readLogin (user : Row) : Except String LoginRow :=
  labelled "Falha ao consultar usuário" do
    let id ← readInt user 0 "id"
    let _ ← readText user 1 "nome"
    let login ← readText user 2 "login"
    let senhaHash ← readText user 3 "senha_hash"
    let _ ← readInt user 4 "administrador"
    let ativo ← readInt user 5 "ativo"
    return ⟨id, login, senhaHash, ativo⟩

/-- The user that a login names. -/
def loginRow (login : String) : Action (Option LoginRow) := do
  let db := (← get) .file
  let normalized := host.toLowercase (trimText login)
  match (db.rows .usuarios).find? fun user =>
      (host.dialect .file).lower (user "login") = .text normalized with
  | none => return none
  | some user => some <$> ofExcept (readLogin user)

/-- The rows of a login that has succeeded: old sessions go, a new one comes. -/
def openSession (userId : ℤ) : Action Unit := do
  let _ ← deleteRows .file .userSessions
    (fun session => session "usuario_id" = .integer userId ||
      (session "expires_at" ≠ .null && !isAfter (session "expires_at") host.now))
    "Falha ao limpar sessões antigas"
  let _ ← insertRow host .file .userSessions
    [("usuario_id", .integer userId), ("session_token", .text host.uuid),
      ("created_at", .text host.now), ("expires_at", .text host.inSevenDays),
      ("last_activity_at", .text host.now)]
    "Falha ao criar sessão"
  let _ ← updateRows host .file .usuarios "id" (.integer userId)
    [("ultimo_login_em", .text host.now)] "Falha ao atualizar último login"
  return ()

/-- What both logins do; `finish` is what they do differently in the end. -/
def loginWith (login senha : String) (finish : LoginRow → AuthUser → Action LoginResponse) :
    Action LoginResponse := do
  match ← loginRow host login with
  | none => return .refused "Usuário não encontrado."
  | some row =>
    if row.ativo = 0 then return .refused "Usuário inativo."
    else if !(← ofExcept (host.verifyPassword senha row.senhaHash)) then
      return .refused "Senha inválida."
    else do
      openSession host row.id
      let user ← buildAuthUser host row.id
      finish row user

/-- An entry of the log about a user. -/
def userLog (level category message : String) (details : Option Value) : AppLogInput :=
  ⟨level, category, message, some "backend", none, details⟩

def authLogin (login senha : String) : Action LoginResponse :=
  loginWith host login senha fun row user => do
    noteAppLog host (userLog "info" "auth" "Login efetuado com sucesso."
      (some (.object [("usuario_id", .ofInt row.id), ("login", .string row.login)])))
    return ⟨true,
      if user.senhaProvisoria then
        "Login efetuado com sucesso. Este usuário está com senha provisória."
      else "Login efetuado com sucesso.", some host.uuid, some user⟩

def authRestore (sessionToken : String) : Action LoginResponse := do
  let identity ← tryCatch (some <$> requireSessionByToken host sessionToken) fun _ => pure none
  match identity with
  | none =>
    noteAppLog host (userLog "warning" "session"
      "Falha ao restaurar sessão expirada ou inválida." none)
    return .refused "Sessão inválida ou expirada."
  | some identity =>
    let user ← buildAuthUser host identity.userId
    noteAppLog host (userLog "info" "session" "Sessão restaurada com sucesso."
      (some (.object [("usuario_id", .ofInt identity.userId)])))
    return ⟨true, "Sessão restaurada com sucesso.", some sessionToken, some user⟩

def authLogout (sessionToken : String) : Action Bool := do
  let _ ← deleteRows .file .userSessions
    (fun session => session "session_token" = .text sessionToken) "Falha ao encerrar sessão"
  noteAppLog host (userLog "info" "session" "Sessão encerrada." none)
  return true

/-- The stored hash of a user; `query_row` fails when there is no row. -/
def currentHash (label : String) (userId : ℤ) : Action String := do
  match userById ((← get) .file) userId with
  | none => throw (label ++ ": Query returned no rows")
  | some user => ofExcept (labelled label (readText user 0 "senha_hash"))

/-- The update of a new password. -/
def storePassword (userId : ℤ) (hash : String) : Action Unit := do
  let _ ← updateRows host .file .usuarios "id" (.integer userId)
    [("senha_hash", .text hash), ("senha_provisoria", .integer 0), ("updated_at", .text host.now)]
    "Falha ao atualizar senha"
  return ()

def authChangePassword (sessionToken currentPassword newPassword : String) : Action Bool := do
  let identity ← requireSessionByToken host sessionToken
  if (trimText newPassword).utf8ByteSize < 6 then
    throw "A nova senha deve conter ao menos 6 caracteres."
  else do
    let hash ← currentHash "Falha ao consultar senha atual" identity.userId
    if !(← ofExcept (host.verifyPassword (trimText currentPassword) hash)) then
      throw "A senha atual informada está incorreta."
    else do
      let newHash ← ofExcept (host.hashPassword (trimText newPassword))
      storePassword host identity.userId newHash
      noteAppLog host (userLog "info" "auth" "Senha alterada com sucesso."
        (some (.object [("usuario_id", .ofInt identity.userId)])))
      return true

end Tunnara.Console
