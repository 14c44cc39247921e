/-
# The commands of the internal API

`execute_command` serves the commands of the desktop over HTTP: with code of its own, most of
it over whole tables, or through the generic commands on entities. A name that no branch
knows is taken for an entity if it ends like a command.
-/

import Tunnara.Console.Auth
import Tunnara.Console.Entities

namespace Tunnara.Console.AppCommands

open Sql

/-- What a command reads of `InternalApiState`. -/
structure ApiState where
  host : String
  port : ℕ
  (requireToken allowPublicNetwork corsEnabled : Bool)
  tokenHeader : String
  (docsPublicLocal exposeDocs : Bool)
  docsPath : String

abbrev Args := List (String × Value)

def getString (args : Args) (key : String) : String :=
  trimText (((getField args key).bind Value.asStr).getD "")

def getI64 (args : Args) (key : String) : ℤ := ((getField args key).bind asI64OrParsed).getD 0

/-- An argument that is an object, or the empty one. -/
def objectArg (args : Args) (key : String) : List (String × Value) :=
  ((getField args key).bind Value.asObject).getD []

def getPayload (args : Args) : List (String × Value) := objectArg args "payload"

def getFilters (args : Args) : List (String × Value) := objectArg args "filters"

def searchFromArgs (args : Args) : String :=
  let direct := getString args "search"
  if direct ≠ "" then direct else getString (getFilters args) "search"

def asI64List (value : Option Value) : List ℤ :=
  (((value.bind Value.asArray).getD []).filterMap asI64OrParsed).filter (0 < ·)

variable (host : Host) (api : ApiState)

/-- `LOWER(COALESCE(column, '')) LIKE LOWER('%search%')` for one of the columns. -/
def matchesSearch (columns : List String) (search : String) (row : Row) : Bool :=
  let dialect := host.dialect .file
  columns.any fun column =>
    dialect.like (dialect.lower (.text (wildcard search)))
      (dialect.lower ((row column).orElse (.text "")))

/-- The column that `table_list` sorts by. -/
def orderColumn (table : Table) : String :=
  let available := catalog.columnNames table
  if "nome" ∈ available then "nome"
  else if "descricao" ∈ available then "descricao"
  else if "id" ∈ available then "id"
  else "rowid"

/-- The rows that `table_list` selects. -/
def searched (table : Table) (search : String) (searchable : List String) (rows : List Row) :
    List Row :=
  let columns := searchable.filter (· ∈ catalog.columnNames table)
  if isBlank search || columns = [] then rows
  else rows.filter (matchesSearch host columns search)

/-- `SELECT *`. -/
def record (table : Table) (row : Row) : List (String × Value) :=
  rowToJsonMap (catalog.columnNames table) row

def tableList (table : Table) (search : String) (searchable : List String) :
    Action (List (List (String × Value))) := do
  let rows ← tableRows .file table
  return (Database.sorted (host.dialect .file) (orderColumn table)
    (searched host table search searchable rows)).map (record table)

def tableRecord (table : Table) (id : ℤ) : Action (List (String × Value)) := do
  let rows ← tableRows .file table
  match rows.find? fun row => row "id" = .integer id with
  | none => throw "Registro não encontrado."
  | some row => return record table row

def recordId (payload : List (String × Value)) : Option ℤ :=
  (payloadId payload).filter (0 < ·)

def stamped (table : Table) (payload : List (String × Value)) : List (String × Value) :=
  let available := catalog.columnNames table
  let withStamp := fun (name : String) (data : List (String × Value)) =>
    if name ∈ available && (getField data name).isNone then
      setField data name (.string host.now)
    else data
  let updated := withStamp "updated_at" payload
  if (recordId payload).isNone then withStamp "created_at" updated else updated

/-- The columns that `save_record` writes. -/
def recordFields (table : Table) (payload : List (String × Value)) :
    List (String × SqlValue) :=
  ((stamped host table payload).filter fun field =>
      field.1 ≠ "id" && field.1 ∈ catalog.columnNames table).map fun field =>
    (field.1, jsonToSqlValue host field.2)

/-- The write of `save_record`. -/
def writeRecord (table : Table) (payload : List (String × Value)) : Action ℤ :=
  let fields := recordFields host table payload
  if fields = [] then throw ("Nenhum campo válido foi informado para " ++ table.name ++ ".")
  else match recordId payload with
    | some id => do
      let _ ← updateRows host .file table "id" (.integer id) fields
        ("Falha ao atualizar " ++ table.name)
      return id
    | none => insertRow host .file table fields ("Falha ao inserir em " ++ table.name)

def saveRecord (table : Table) (payload : List (String × Value)) :
    Action (List (String × Value)) := do
  tableRecord table (← writeRecord host table payload)

def deleteRecord (table : Table) (id : ℤ) : Action Bool := do
  let _ ← deleteRows .file table (fun row => row "id" = .integer id)
    ("Falha ao excluir registro de " ++ table.name)
  return true

def syncLinkTable (table : Table) (ownerField targetField : String) (ownerId : ℤ)
    (targetIds : List ℤ) : Action Unit :=
  if targetIds = [] then pure ()
  else do
    let _ ← deleteRows .file table (fun link => link ownerField = .integer ownerId)
      ("Falha ao limpar vínculos de " ++ table.name)
    targetIds.forM fun targetId => do
      let _ ← insertRow host .file table
        [(ownerField, .integer ownerId), (targetField, .integer targetId),
          ("created_at", .text host.now)]
        ("Falha ao gravar vínculo de " ++ table.name)

/-- `saved.get("id").and_then(Value::as_i64).unwrap_or_default()`. -/
def savedId (saved : List (String × Value)) : ℤ := ((getField saved "id").bind Value.asI64).getD 0

def authLoginHttp (login senha : String) : Action Value := do
  let response ← loginWith host login senha fun _ user =>
    return ⟨true, "Login efetuado com sucesso.", some host.uuid, some user⟩
  return response.toValue

def authRestoreHttp (sessionToken : String) : Action Value := do
  let identity ← requireSessionByToken host sessionToken
  let user ← buildAuthUser host identity.userId
  return (LoginResponse.mk true "Sessão restaurada." (some sessionToken) (some user)).toValue

/-- `auth_change_password_http`. Without a current password none is asked for. -/
def authChangePasswordHttp (args : Args) : Action Value := do
  let currentPassword := getString args "current_password"
  let newPassword := getString args "new_password"
  if newPassword.utf8ByteSize < 6 then
    throw "A nova senha deve possuir no mínimo 6 caracteres."
  else do
    let identity ← requireSessionByToken host (getString args "session_token")
    let hash ← currentHash "Falha ao carregar senha atual" identity.userId
    let verified ←
      if currentPassword = "" then pure true
      else ofExcept (host.verifyPassword currentPassword hash)
    if !verified then throw "Senha atual inválida."
    else do
      let newHash ← ofExcept (host.hashPassword newPassword)
      storePassword host identity.userId newHash
      return .bool true

def profilePermissions (profileId : ℤ) : Action (List String) := do
  let grants ← tableRows .file .perfisPermissoes
  let own := grants.filter fun grant => grant "perfil_id" = .integer profileId
  ofExcept (labelled "Falha ao mapear permissão"
    ((Database.sorted (host.dialect .file) "permissao_chave" own).mapM fun grant =>
      readText grant 0 "permissao_chave"))

/-- A record of `profile_list`. -/
def withPermissions (row : List (String × Value)) : Action (List (String × Value)) :=
  match (getField row "id").bind Value.asI64 with
  | none => return row
  | some id => do
    let permissions ← profilePermissions host id
    return setField row "permissions" (.array (permissions.map .string))

def profileList (args : Args) : Action Value := do
  let rows ← tableList host .perfisAcesso (searchFromArgs args) ["nome", "descricao"]
  let withKeys ← rows.mapM (withPermissions host)
  return .array (withKeys.map .object)

def profileGet (args : Args) : Action Value := do
  let row ← tableRecord .perfisAcesso (getI64 args "id")
  let permissions ← profilePermissions host (savedId row)
  let keys := Value.array (permissions.map .string)
  return .object (setField (setField row "permissions" keys) "permission_keys" keys)

def payloadPermissions (payload : List (String × Value)) : List String :=
  (((getFirst payload ["permission_keys", "permissions", "permissoes"]).bind
    Value.asArray).getD []).filterMap Value.asStr

def profileSave (args : Args) : Action Value := do
  let payload := getPayload args
  let saved ← saveRecord host .perfisAcesso payload
  let permissions := payloadPermissions payload
  if permissions ≠ [] then do
    let _ ← deleteRows .file .perfisPermissoes
      (fun grant => grant "perfil_id" = .integer (savedId saved)) "Falha ao limpar permissões"
    permissions.forM fun permission => do
      let _ ← insertRow host .file .perfisPermissoes
        [("perfil_id", .integer (savedId saved)), ("permissao_chave", .text permission),
          ("created_at", .text host.now)] "Falha ao gravar permissão"
  return .object (← tableRecord .perfisAcesso (savedId saved))

def userList (args : Args) : Action Value := do
  let rows ← tableList host .usuarios (searchFromArgs args) ["nome", "login", "email"]
  return .array (rows.map .object)

def userGet (args : Args) : Action Value := do
  let row ← tableRecord .usuarios (getI64 args "id")
  return .object (removeField row "senha_hash")

def payloadPassword (payload : List (String × Value)) : String :=
  trimText (((getFirst payload ["senha", "password"]).bind Value.asStr).getD "")

/-- The password that a user without one of its own gets. -/
def initialPassword (payload : List (String × Value)) : Option String :=
  let id := ((getField payload "id").bind Value.asI64).getD 0
  let senha := payloadPassword payload
  if id ≤ 0 ∧ senha = "" then some "123456"
  else if senha ≠ "" then some senha
  else none

/-- The payload as it is saved: with the hash of the password, and active. -/
def userPayload (payload : List (String × Value)) (hash : Option String) :
    List (String × Value) :=
  let hashed := match hash with
    | none => payload
    | some hash =>
      setField (setField payload "senha_hash" (.string hash)) "senha_provisoria" (.ofInt 1)
  if (getField hashed "ativo").isSome then hashed else setField hashed "ativo" (.ofInt 1)

def payloadProfiles (payload : List (String × Value)) : List ℤ :=
  asI64List (getFirst payload ["profile_ids", "perfil_ids", "perfis"])

def payloadCompanies (payload : List (String × Value)) : List ℤ :=
  asI64List (getFirst payload ["company_ids", "empresa_ids", "empresas"])

def userSave (args : Args) : Action Value := do
  let given := getPayload args
  let hash ← match initialPassword given with
    | none => pure none
    | some password => some <$> ofExcept (host.hashPassword password)
  let payload := userPayload given hash
  let saved ← saveRecord host .usuarios payload
  syncLinkTable host .usuariosPerfis "usuario_id" "perfil_id" (savedId saved)
    (payloadProfiles payload)
  syncLinkTable host .usuariosEmpresas "usuario_id" "empresa_id" (savedId saved)
    (payloadCompanies payload)
  let row ← tableRecord .usuarios (savedId saved)
  return .object (removeField row "senha_hash")

def textOr (payload : List (String × Value)) (key default : String) : String :=
  ((getField payload key).bind Value.asStr).getD default

def appLogWrite (args : Args) : Action Value := do
  let payload := getPayload args
  writeAppLog host
    { level := textOr payload "level" "info"
      category := textOr payload "category" "frontend"
      message := textOr payload "message" "Evento da aplicação web"
      source := (getField payload "source").bind Value.asStr
      route := (getField payload "route").bind Value.asStr
      details := some ((getField payload "details").getD .null) }
  return .bool true

/-- `SELECT … FROM table ORDER BY id DESC LIMIT …`. -/
def latest (table : Table) (columns : List String) (limit : ℕ) : Action Value := do
  let rows ← tableRows .file table
  return .array ((((Database.sorted (host.dialect .file) "id" rows).reverse).take limit).map
    fun row => .object (rowToJsonMap columns row))

def loadSettingsValue (key : String) : Action (Option Value) := do
  let rows ← tableRows .file .appSettings
  match rows.find? fun row => row "chave" = .text key with
  | none => return none
  | some row => do
    let raw ← ofExcept (labelled ("Falha ao carregar configuração " ++ key)
      (readText row 0 "valor"))
    return host.parseJson raw

def saveSettingsValue (key : String) (value : Value) : Action Unit := do
  let label := "Falha ao salvar configuração " ++ key
  let rows ← tableRows .file .appSettings
  if rows.any fun row => row "chave" = .text key then do
    let _ ← updateRows host .file .appSettings "chave" (.text key)
      [("valor", .text (host.jsonText value)), ("updated_at", .text host.now)] label
    return ()
  else do
    let _ ← insertRow host .file .appSettings
      [("chave", .text key), ("valor", .text (host.jsonText value)),
        ("created_at", .text host.now), ("updated_at", .text host.now)] label
    return ()

/-- A port among the settings. -/
def portEntry (key label address : String) (port defaultPort : ℕ) : Value :=
  .object [("key", .string key), ("label", .string label), ("host", .string address),
    ("configured_port", .ofInt port), ("effective_port", .ofInt port),
    ("default_port", .ofInt defaultPort), ("available", .bool true),
    ("fallback_applied", .bool false)]

def runtimeSettingsPayload (settings : Value) : Value :=
  .object [("env_path", .string "app_settings:runtime.settings"), ("settings", settings),
    ("ports", .array
      [portEntry "internal_api" "API interna" api.host api.port 61001,
        portEntry "local_web" "Servidor web local" "0.0.0.0" 61002 61002,
        portEntry "auxiliary" "Webhook Service" "0.0.0.0" 61003 61003,
        portEntry "bridge_core" "WebSocket Service" "0.0.0.0" 61004 61004]),
    ("warnings", .array [.string ("Configurações carregadas pela API interna web. " ++
      "Reinicie os serviços nativos pelo desktop quando necessário.")])]

/-- `http://127.0.0.1:port` and a path. -/
def localUrl (path : String) : Value :=
  .string ("http://127.0.0.1:" ++ toString api.port ++ path)

def defaultRuntimeSettings : Value :=
  .object [("internal_api_host", .string api.host), ("internal_api_port", .ofInt api.port),
    ("internal_api_auto_start", .bool true), ("internal_api_base_url", localUrl api ""),
    ("internal_api_docs_url", localUrl api "/docs"),
    ("internal_api_restart_on_config_change", .bool true),
    ("internal_api_require_token", .bool api.requireToken),
    ("internal_api_allow_public_network", .bool api.allowPublicNetwork),
    ("internal_api_cors_enabled", .bool api.corsEnabled),
    ("internal_api_token_header", .string api.tokenHeader), ("internal_api_token", .string ""),
    ("internal_api_docs_public_local", .bool api.docsPublicLocal),
    ("internal_api_open_scalar_after_start", .bool false),
    ("internal_api_timeout_ms", .ofInt 8000), ("internal_api_log_mode", .string "normal"),
    ("internal_api_docs_enabled", .bool api.exposeDocs),
    ("internal_api_docs_path", .string api.docsPath), ("local_web_enabled", .bool true),
    ("local_web_auto_start", .bool true), ("local_web_host", .string "0.0.0.0"),
    ("local_web_port", .ofInt 61002), ("auxiliary_host", .string "0.0.0.0"),
    ("auxiliary_port", .ofInt 61003), ("bridge_core_host", .string "0.0.0.0"),
    ("bridge_core_port", .ofInt 61004), ("webhook_enabled", .bool false),
    ("webhook_auto_start", .bool false), ("webhook_host", .string "0.0.0.0"),
    ("webhook_port", .ofInt 61003), ("webhook_base_path", .string "/webhooks"),
    ("webhook_token_required", .bool true), ("webhook_token_header", .string "X-Webhook-Token"),
    ("webhook_token", .string ""), ("webhook_allow_lan", .bool true),
    ("webhook_allow_external", .bool false), ("websocket_enabled", .bool false),
    ("websocket_auto_start", .bool false), ("websocket_host", .string "0.0.0.0"),
    ("websocket_port", .ofInt 61004), ("websocket_path", .string "/ws"),
    ("websocket_token_required", .bool true), ("websocket_token_query", .string "token"),
    ("websocket_token_header", .string "X-WebSocket-Token"), ("websocket_token", .string ""),
    ("websocket_allow_lan", .bool true), ("websocket_allow_external", .bool false),
    ("websocket_heartbeat_seconds", .ofInt 30), ("tray_enabled", .bool false),
    ("minimize_to_tray", .bool false), ("close_to_tray", .bool false),
    ("start_with_windows", .bool false), ("services_auto_start", .bool true),
    ("app_service_name", .string "TunnaraConsoleServer")]

def runtimeSettingsLoad : Action Value := do
  let settings ← loadSettingsValue host "runtime.settings"
  return runtimeSettingsPayload api (settings.getD (defaultRuntimeSettings api))

def runtimeSettingsSave (args : Args) : Action Value := do
  let settings := (getField args "settings").getD (.object (getPayload args))
  saveSettingsValue host "runtime.settings" settings
  return runtimeSettingsPayload api settings

def listEntity (entity search : String) : Action Value := do
  let driver ← providerForState host
  return .array ((← providerList host driver entity search).map .object)

/-- The branches that get a record of an entity. -/
def getEntity (entity : String) (id : ℤ) : Action Value := do
  let driver ← providerForState host
  match ← providerGet host driver entity id with
  | none => throw "Registro não encontrado."
  | some row => return .object row

/-- The branches that save a record of an entity. -/
def saveEntity (entity : String) (payload : List (String × Value)) : Action Value := do
  let driver ← providerForState host
  return .object (← providerSave host driver entity payload)

/-- The branches that delete a record of an entity. -/
def deleteEntity (entity : String) (id : ℤ) : Action Value := do
  let driver ← providerForState host
  return .bool (← providerDelete host driver entity id)

/-- An entry of `combo_list`. -/
def comboEntry (row : List (String × Value)) : Value :=
  let id := (getField row "id").getD .null
  .object [("id", id), ("label", (getFirst row ["nome", "descricao", "titulo"]).getD
    (.string ("Registro " ++ host.jsonText id)))]

def comboList (args : Args) : Action Value := do
  let driver ← providerForState host
  let rows ← providerList host driver (getString args "entity") ""
  return .array (rows.map (comboEntry host))

end Tunnara.Console.AppCommands
