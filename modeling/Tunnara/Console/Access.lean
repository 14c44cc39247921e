/-
# Administration of users and profiles on the desktop

The commands of the desktop validate what they are given, write fixed columns and replace the
links of a record. The reading ones ask for a session, the writing ones for a master's.
-/

import Tunnara.Console.Auth

namespace Tunnara.Console.Access

open Sql

variable (host : Host)

def getString (payload : List (String × Value)) (key : String) : Option String :=
  let text := match getField payload key with
    | some (.string s) => some (trimText s)
    | some (.number n) => some (numberText host n)
    | some (.bool b) => some (if b then "1" else "0")
    | _ => none
  text.filter (· ≠ "")

def getBool (payload : List (String × Value)) (key : String) (default : Bool) : ℤ :=
  match getField payload key with
  | some (.bool b) => if b then 1 else 0
  | some (.number n) => if n.asI64.getD 0 ≠ 0 then 1 else 0
  | some (.string s) =>
    if host.toLowercase (trimText s) ∈ ["1", "true", "sim", "yes"] then 1 else 0
  | _ => if default then 1 else 0

/-- The number that a value stands for. -/
def toI64 : Value → Option ℤ
  | .number n => n.asI64
  | .string s => parseI64 (trimText s)
  | _ => none

def getI64 (payload : List (String × Value)) (key : String) : Option ℤ :=
  (getField payload key).bind toI64

/-- `text.split(',')`. -/
def splitCommas (s : String) : List String :=
  (s.toList.splitOn ',').map String.ofList

def getStringArray (payload : List (String × Value)) (key : String) : List String :=
  match getField payload key with
  | some (.array items) =>
    (items.filterMap fun item => match item with
      | .string s => some (trimText s)
      | .number n => some (numberText host n)
      | _ => none).filter (· ≠ "")
  | some (.string s) =>
    if isBlank s then [] else ((splitCommas s).map trimText).filter (· ≠ "")
  | _ => []

def getI64Array (payload : List (String × Value)) (key : String) : List ℤ :=
  match getField payload key with
  | some (.array items) => items.filterMap toI64
  | some (.string s) =>
    if isBlank s then [] else (splitCommas s).filterMap fun item => parseI64 (trimText item)
  | _ => []

def ensureMaster (sessionToken : String) : Action ℤ := do
  let identity ← requireSessionByToken host sessionToken
  if identity.masterUser then return identity.userId
  else throw "Apenas usuário master pode executar esta operação."

def validateEmail (value : String) : Bool :=
  let email := trimText value
  email ≠ "" && includes email "@" && includes email "."

def normalizeLogin (value : String) : String := host.toLowercase (trimText value)

/-- `clamp_login_min_length`: from `USER_LOGIN_MIN_LENGTH_MIN` to `USER_LOGIN_MIN_LENGTH_MAX`. -/
def clampLoginMinLength (value : ℤ) : ℤ := max 1 (min value 64)

/-- What is stored under `USER_LOGIN_MIN_LENGTH_KEY`. -/
def storedLoginMinLength (db : Database Table) : Except String ℤ :=
  match (db.rows .appSettings).find? fun row => row "chave" = .text "user_login_min_length" with
  | none => .ok 2
  | some row => do
    let raw ← labelled "Falha ao consultar política de login" (readText row 0 "valor")
    return (parseI64 (trimText raw)).getD 2

def loadLoginMinLength : Action ℤ := do
  let stored ← ofExcept (storedLoginMinLength ((← get) .file))
  return clampLoginMinLength stored

/-- The answer of both policy commands. -/
def policyAnswer (loginMinLength : ℤ) : List (String × Value) :=
  [("login_max_allowed", .ofInt 64), ("login_min_allowed", .ofInt 1),
    ("login_min_length", .ofInt loginMinLength)]

def userPolicyGet (sessionToken : String) : Action (List (String × Value)) := do
  let _ ← ensureMaster host sessionToken
  return policyAnswer (← loadLoginMinLength)

/-- `INSERT … ON CONFLICT(chave) DO UPDATE SET valor = …, updated_at = …`. -/
def upsertSetting (key value label : String) : Action Unit := do
  let rows ← tableRows .file .appSettings
  if rows.any fun row => row "chave" = .text key then do
    let _ ← updateRows host .file .appSettings "chave" (.text key)
      [("valor", .text value), ("updated_at", .text host.now)] label
    return ()
  else do
    let _ ← insertRow host .file .appSettings
      [("chave", .text key), ("valor", .text value), ("created_at", .text host.now),
        ("updated_at", .text host.now)] label
    return ()

def userPolicySave (sessionToken : String) (payload : List (String × Value)) :
    Action (List (String × Value)) := do
  let actorId ← ensureMaster host sessionToken
  match getI64 payload "login_min_length" with
  | none => throw "Informe a quantidade mínima de caracteres para login."
  | some value =>
    if clampLoginMinLength value ≠ value then
      throw "A política de login deve ficar entre 1 e 64 caracteres."
    else do
      upsertSetting host "user_login_min_length" (toString value)
        "Falha ao salvar política de login"
      writeAudit host "user_policy" "update" (some actorId)
        (.object [("login_min_length", .ofInt value)])
      return policyAnswer value

def permissionLabel (key : String) : String :=
  let known := [("usuarios:view", "Visualizar usuários"), ("usuarios:manage", "Gerenciar usuários"),
    ("perfis:view", "Visualizar perfis"), ("perfis:manage", "Gerenciar perfis"),
    ("config:view", "Visualizar configurações"), ("config:manage", "Gerenciar configurações"),
    ("relatorios:export", "Exportar relatórios")]
  let spaced := fun part : List Char => String.ofList (part.map fun c => if c = '_' then ' ' else c)
  match known.lookup key, key.toList.splitOn ':' with
  | some label, _ => label
  | none, group :: action :: _ => spaced group ++ " - " ++ spaced action
  | none, group => spaced group.flatten ++ " - view"

def permissionCatalog (sessionToken : String) : Action (List (List (String × Value))) := do
  let _ ← requireSessionByToken host sessionToken
  return allPermissionKeys.map fun key =>
    [("group", .string (String.ofList (key.toList.takeWhile (· ≠ ':')))), ("key", .string key),
      ("label", .string (permissionLabel key))]

def withColumns (row : Row) (extras : List (String × SqlValue)) : Row := fun name =>
  (extras.lookup name).getD (row name)

/-- `search`, `onlyActive` among the filters of a list. -/
def filtered (searchable : List String) (filters : List (String × Value)) (rows : List Row) :
    List Row :=
  let search := (getString host filters "search").getD ""
  rows.filter fun row =>
    (search = "" || Database.anyLike (host.dialect .file) searchable ("%" ++ search ++ "%") row) &&
      (getBool host filters "onlyActive" false ≠ 1 || row "ativo" = .integer 1)

def profileColumns : List String :=
  ["id", "nome", "descricao", "perfil_master", "ativo", "created_at", "updated_at"]

def profileList (sessionToken : String) (filters : List (String × Value)) :
    Action (List (List (String × Value))) := do
  let _ ← requireSessionByToken host sessionToken
  let db := (← get) .file
  let counted := (filtered host ["nome", "descricao"] filters (db.rows .perfisAcesso)).map
    fun profile =>
      let users := ((db.rows .usuariosPerfis).filter fun link =>
        link "perfil_id" = profile "id").map fun link => link "usuario_id"
      let keys := ((db.rows .perfisPermissoes).filter fun grant =>
        grant "perfil_id" = profile "id").map fun grant => grant "permissao_chave"
      withColumns profile [("total_usuarios", .integer users.dedup.length),
        ("total_permissoes", .integer keys.dedup.length)]
  return (Database.sorted (host.dialect .file) "nome" counted).map
    (rowToJsonMap (profileColumns ++ ["total_usuarios", "total_permissoes"]))

/-- The rest of `profile_get`, after its check. -/
def profileRecord (id : ℤ) : Action (List (String × Value)) := do
  let db := (← get) .file
  match (db.rows .perfisAcesso).find? fun row => row "id" = .integer id with
  | none => throw "Perfil não encontrado."
  | some row =>
    let grants := (db.rows .perfisPermissoes).filter fun grant => grant "perfil_id" = .integer id
    let keys ← ofExcept (labelled "Falha ao mapear permissões do perfil"
      ((Database.sorted (host.dialect .file) "permissao_chave" grants).mapM fun grant =>
        readText grant 0 "permissao_chave"))
    return setField (rowToJsonMap profileColumns row) "permission_keys"
      (.array (keys.map .string))

def profileGet (sessionToken : String) (id : ℤ) : Action (List (String × Value)) := do
  let _ ← requireSessionByToken host sessionToken
  profileRecord host id

/-- What `profile_save` reads of a payload. -/
structure ProfileInput where
  id : Option ℤ
  nome : String
  descricao : Option String
  perfilMaster : ℤ
  ativo : ℤ
  permissionKeys : List String

/-- The part of `profile_save` that only reads the payload. -/
def readProfile (payload : List (String × Value)) : Except String ProfileInput :=
  match getString host payload "nome" with
  | none => .error "Informe o nome do perfil."
  | some nome =>
    let perfilMaster := getBool host payload "perfil_master" false
    let keys := dedupTexts (sortTexts (getStringArray host payload "permission_keys"))
    if keys = [] ∧ perfilMaster = 0 then
      .error "Selecione pelo menos uma permissão para o perfil."
    else match keys.find? fun key => key ∉ allPermissionKeys with
      | some key => .error ("Permissão inválida: " ++ key)
      | none => .ok ⟨getI64 payload "id", nome, getString host payload "descricao",
          perfilMaster, getBool host payload "ativo" true, keys⟩

/-- `LOWER(column) = LOWER(value) AND (id IS NULL OR id <> …)`. -/
def takenBy (column value : String) (id : Option ℤ) (row : Row) : Bool :=
  let lower := (host.dialect .file).lower
  lower (row column) = lower (.text value) &&
    (match id with
      | none => true
      | some id => row "id" ≠ .integer id)

/-- The columns that `profile_save` writes. -/
def ProfileInput.fields (input : ProfileInput) : List (String × SqlValue) :=
  [("nome", .text input.nome), ("descricao", optionalText input.descricao),
    ("perfil_master", .integer input.perfilMaster), ("ativo", .integer input.ativo)]

/-- The permissions that a profile gets. -/
def ProfileInput.grants (input : ProfileInput) : List String :=
  if input.perfilMaster = 1 then allPermissionKeys else input.permissionKeys

/-- `update` or `insert`. -/
def actionName (id : Option ℤ) : String := if id.isSome then "update" else "insert"

/-- `{ "actor_id": actor_id, "payload": payload }`. -/
def auditPayload (actorId : ℤ) (payload : Value) : Value :=
  .object [("actor_id", .ofInt actorId), ("payload", payload)]

def profileSave (sessionToken : String) (payload : List (String × Value)) :
    Action (List (String × Value)) := do
  let actorId ← ensureMaster host sessionToken
  let input ← ofExcept (readProfile host payload)
  let profiles ← tableRows .file .perfisAcesso
  if profiles.any (takenBy host "nome" input.nome input.id) then
    throw "Já existe perfil com este nome."
  else do
    let recordId ← upsertRecord host .file .perfisAcesso input.id
      (input.fields ++ [("updated_at", .text host.now)])
      (input.fields ++ [("created_at", .text host.now), ("updated_at", .text host.now)])
      "Falha ao atualizar perfil" "Falha ao inserir perfil"
    let _ ← deleteRows .file .perfisPermissoes
      (fun grant => grant "perfil_id" = .integer recordId) "Falha ao limpar permissões do perfil"
    input.grants.forM fun key => do
      let _ ← insertRow host .file .perfisPermissoes
        [("perfil_id", .integer recordId), ("permissao_chave", .text key),
          ("created_at", .text host.now)] "Falha ao gravar permissão do perfil"
    let payloadJson := Value.object
      [("ativo", .ofInt input.ativo), ("descricao", .ofOption .string input.descricao),
        ("id", .ofInt recordId), ("nome", .string input.nome),
        ("perfil_master", .ofInt input.perfilMaster)]
    enqueueSync host "perfis_acesso" (actionName input.id) (some recordId) payloadJson
    writeAudit host "perfis_acesso" (actionName input.id) (some recordId)
      (auditPayload actorId payloadJson)
    profileGet host sessionToken recordId

def profileDelete (sessionToken : String) (id : ℤ) : Action Bool := do
  let actorId ← ensureMaster host sessionToken
  let links ← tableRows .file .usuariosPerfis
  if links.any fun link => link "perfil_id" = .integer id then
    throw "Não é possível excluir o perfil porque existem usuários vinculados a ele."
  else do
    let _ ← deleteRows .file .perfisPermissoes (fun grant => grant "perfil_id" = .integer id)
      "Falha ao excluir permissões do perfil"
    let affected ← deleteRows .file .perfisAcesso (fun row => row "id" = .integer id)
      "Falha ao excluir perfil"
    if affected = 0 then throw "Perfil não encontrado."
    else do
      writeAudit host "perfis_acesso" "delete" (some id) (.object [("actor_id", .ofInt actorId)])
      return true

/-- `GROUP_CONCAT(DISTINCT …)`. -/
def groupConcat (dialect : Dialect) (values : List SqlValue) : SqlValue :=
  match (values.filter (· ≠ .null)).dedup with
  | [] => .null
  | value :: rest => .text (",".intercalate ((value :: rest).map dialect.textOf))

def userList (sessionToken : String) (filters : List (String × Value)) :
    Action (List (List (String × Value))) := do
  let _ ← requireSessionByToken host sessionToken
  let db := (← get) .file
  let dialect := host.dialect .file
  let named := fun (links targets : Table) (targetField : String) (user : Row) =>
    groupConcat dialect ((linked (db.rows links) (db.rows targets) "usuario_id" targetField
      (user "id")).map fun target => target "nome")
  let inCompany := fun user : Row =>
    match getI64 filters "empresaId" with
    | none => true
    | some company => (db.rows .usuariosEmpresas).any fun link =>
      link "usuario_id" = user "id" && link "empresa_id" = .integer company
  let users := ((filtered host ["nome", "login", "email"] filters (db.rows .usuarios)).filter
    inCompany).map fun user =>
      withColumns user [("perfis", named .usuariosPerfis .perfisAcesso "perfil_id" user),
        ("empresas", named .usuariosEmpresas .empresas "empresa_id" user)]
  return (Database.sorted dialect "nome" users).map
    (rowToJsonMap ["id", "nome", "login", "email", "telefone", "cargo", "photo_url", "master_user",
      "administrador", "senha_provisoria", "ativo", "ultimo_login_em", "created_at", "updated_at",
      "perfis", "empresas"])

/-- The ids that the links of a user lead to, in order. -/
def linkIds (table : Table) (targetField label : String) (userId : ℤ) : Action (List ℤ) := do
  let links ← tableRows .file table
  let own := links.filter fun link => link "usuario_id" = .integer userId
  ofExcept (labelled label
    ((Database.sorted (host.dialect .file) targetField own).mapM fun link =>
      readInt link 0 targetField))

/-- The rest of `user_get`, after its check. -/
def userRecord (id : ℤ) : Action (List (String × Value)) := do
  match userById ((← get) .file) id with
  | none => throw "Usuário não encontrado."
  | some row => do
    let profileIds ← linkIds host .usuariosPerfis "perfil_id"
      "Falha ao mapear perfis do usuário" id
    let empresaIds ← linkIds host .usuariosEmpresas "empresa_id"
      "Falha ao mapear empresas do usuário" id
    let record := rowToJsonMap ["id", "nome", "login", "email", "telefone", "cargo",
      "observacoes", "photo_url", "master_user", "administrador", "senha_provisoria", "ativo",
      "ultimo_login_em", "created_at", "updated_at"] row
    return setField (setField record "profile_ids" (.array (profileIds.map .ofInt)))
      "empresa_ids" (.array (empresaIds.map .ofInt))

def userGet (sessionToken : String) (id : ℤ) : Action (List (String × Value)) := do
  let _ ← requireSessionByToken host sessionToken
  userRecord host id

/-- What `user_save` reads of a payload. -/
structure UserInput where
  id : Option ℤ
  (nome login : String)
  (email telefone cargo observacoes photoUrl : Option String)
  (masterUser administrador senhaProvisoria ativo : ℤ)
  password : Option String
  (profileIds empresaIds : List ℤ)

/-- The part of `user_save` that reads the payload. -/
def readUser (payload : List (String × Value)) : Except String UserInput :=
  match getString host payload "nome", getString host payload "login" with
  | none, _ => .error "Informe o nome do usuário."
  | some _, none => .error "Informe o login do usuário."
  | some nome, some login => .ok
      { id := getI64 payload "id"
        nome
        login := normalizeLogin host login
        email := getString host payload "email"
        telefone := getString host payload "telefone"
        cargo := getString host payload "cargo"
        observacoes := getString host payload "observacoes"
        photoUrl := getString host payload "photo_url"
        masterUser := getBool host payload "master_user" false
        administrador := getBool host payload "administrador" false
        senhaProvisoria := getBool host payload "senha_provisoria" false
        ativo := getBool host payload "ativo" true
        password := getString host payload "senha"
        profileIds := getI64Array payload "profile_ids"
        empresaIds := getI64Array payload "empresa_ids" }

/-- The first id without a row. -/
def unknownId (rows : List Row) (ids : List ℤ) : Option ℤ :=
  ids.find? fun id => !rows.any fun row => row "id" = .integer id

/-- The checks of `user_save` before it writes. -/
def checkUser (db : Database Table) (actorId loginMinLength : ℤ) (input : UserInput) :
    Except String Unit :=
  if (input.login.utf8ByteSize : ℤ) < loginMinLength then
    .error ("O login deve conter ao menos " ++ toString loginMinLength ++ " caracteres.")
  else if input.email.any fun email => !validateEmail email then
    .error "O e-mail do usuário é inválido."
  else if input.id = some actorId ∧ input.ativo = 0 then
    .error "O usuário master logado não pode ser inativado nesta operação."
  else if (db.rows .usuarios).any (takenBy host "login" input.login input.id) then
    .error "Já existe usuário com este login."
  else if input.masterUser ≠ 1 ∧ input.profileIds = [] then
    .error "Selecione ao menos um perfil de acesso para o usuário."
  else if input.masterUser ≠ 1 ∧ input.empresaIds = [] then
    .error "Selecione ao menos uma empresa para o usuário."
  else match unknownId (db.rows .perfisAcesso) input.profileIds,
      unknownId (db.rows .empresas) input.empresaIds with
    | some id, _ => .error ("Perfil inválido informado: " ++ toString id ++ ".")
    | none, some id => .error ("Empresa inválida informada: " ++ toString id ++ ".")
    | none, none => .ok ()

/-- The columns that `user_save` writes besides the hash and the stamps. -/
def UserInput.fields (input : UserInput) : List (String × SqlValue) :=
  [("nome", .text input.nome), ("login", .text input.login),
    ("email", optionalText input.email), ("telefone", optionalText input.telefone),
    ("cargo", optionalText input.cargo), ("observacoes", optionalText input.observacoes),
    ("photo_url", optionalText input.photoUrl), ("master_user", .integer input.masterUser),
    ("administrador", .integer input.administrador),
    ("senha_provisoria", .integer input.senhaProvisoria), ("ativo", .integer input.ativo)]

/-- The hash of the password of the payload; a new user must have one. -/
def passwordHash (input : UserInput) : Except String (Option String) :=
  match input.password, input.id with
  | none, none => .error "Informe a senha do novo usuário."
  | none, some _ => .ok none
  | some password, _ =>
    if (trimText password).utf8ByteSize < 6 then
      .error "A senha deve conter ao menos 6 caracteres."
    else (host.hashPassword (trimText password)).map some

/-- The column of the hash, when there is one. -/
def hashField : Option String → List (String × SqlValue)
  | none => []
  | some hash => [("senha_hash", .text hash)]

def linkUser (table : Table) (targetField label : String) (userId : ℤ) (ids : List ℤ) :
    Action Unit :=
  ids.forM fun id => do
    let _ ← insertRow host .file table
      [("usuario_id", .integer userId), (targetField, .integer id),
        ("created_at", .text host.now)] label

def userSave (sessionToken : String) (payload : List (String × Value)) :
    Action (List (String × Value)) := do
  let actorId ← ensureMaster host sessionToken
  let input ← ofExcept (readUser host payload)
  let loginMinLength ← loadLoginMinLength
  ofExcept (checkUser host ((← get) .file) actorId loginMinLength input)
  let hash ← ofExcept (passwordHash host input)
  let recordId ← upsertRecord host .file .usuarios input.id
    (input.fields ++ hashField hash ++ [("updated_at", .text host.now)])
    (input.fields ++ hashField hash ++
      [("created_at", .text host.now), ("updated_at", .text host.now)])
    "Falha ao atualizar usuário" "Falha ao inserir usuário"
  let _ ← deleteRows .file .usuariosPerfis (fun link => link "usuario_id" = .integer recordId)
    "Falha ao limpar perfis do usuário"
  let _ ← deleteRows .file .usuariosEmpresas (fun link => link "usuario_id" = .integer recordId)
    "Falha ao limpar empresas do usuário"
  linkUser host .usuariosPerfis "perfil_id" "Falha ao vincular perfil ao usuário" recordId
    input.profileIds
  linkUser host .usuariosEmpresas "empresa_id" "Falha ao vincular empresa ao usuário" recordId
    input.empresaIds
  let payloadJson := Value.object
    [("administrador", .ofInt input.administrador), ("ativo", .ofInt input.ativo),
      ("id", .ofInt recordId), ("login", .string input.login),
      ("master_user", .ofInt input.masterUser), ("nome", .string input.nome),
      ("photo_url", .ofOption .string input.photoUrl)]
  enqueueSync host "usuarios" (actionName input.id) (some recordId) payloadJson
  writeAudit host "usuarios" (actionName input.id) (some recordId)
    (auditPayload actorId payloadJson)
  userGet host sessionToken recordId

/-- `COALESCE(master_user, 0)` of the user, or 0 without one. -/
def targetIsMaster (db : Database Table) (id : ℤ) : Except String ℤ :=
  match userById db id with
  | none => .ok 0
  | some row => labelled "Falha ao validar usuário alvo"
      (readInt (fun _ => (row "master_user").orElse (.integer 0)) 0 "COALESCE(master_user, 0)")

def userDelete (sessionToken : String) (id : ℤ) : Action Bool := do
  let actorId ← ensureMaster host sessionToken
  if actorId = id then throw "O usuário master logado não pode excluir a própria conta."
  else do
    let db := (← get) .file
    let masterCount := ((db.rows .usuarios).filter fun user =>
      user "master_user" = .integer 1 && user "ativo" = .integer 1).length
    let isMaster ← ofExcept (targetIsMaster db id)
    if isMaster = 1 ∧ masterCount ≤ 1 then
      throw "Não é possível excluir o último usuário master ativo."
    else do
      let _ ← deleteRows .file .userSessions
        (fun session => session "usuario_id" = .integer id) "Falha ao limpar sessões do usuário"
      let affected ← deleteRows .file .usuarios (fun user => user "id" = .integer id)
        "Falha ao excluir usuário"
      if affected = 0 then throw "Usuário não encontrado."
      else do
        writeAudit host "usuarios" "delete" (some id) (.object [("actor_id", .ofInt actorId)])
        return true

end Tunnara.Console.Access
