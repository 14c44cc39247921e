/-
# The dispatcher of the internal API

Which command a name stands for. Those that answer out of the process alone are apart from
those that use the databases.
-/

import Tunnara.Console.AppCommands

namespace Tunnara.Console.AppCommands

open Sql

/-- The commands that do without the databases. -/
inductive FixedCommand
  | appMeta
  | appBootstrap
  | systemInfo
  | systemSetDataDir
  | permissionCatalog
  | userPolicyGet
  | userPolicySave
  | companyLookup
  | adminStatus
  | adminRequest
  | integrationTest
  | runtimeEnvExample
  | internalApiStatus
  | internalApiTest
  | webProxyStatus
  | webProxyStart
  | webProxyStop
  | internalApiTestPort
  | internalApiStart
  | internalApiStop
  | webhookStatus
  | webhookStart
  | webhookStop
  | webhookListEvents
  | webhookClearEvents
  | webhookTestReceive
  | websocketStatus
  | websocketStart
  | websocketStop
  | websocketListClients
  | websocketBroadcastTest
  | startupWithWindowsSet
  | appServiceControl
  | appServiceStatus
  | trayStatus
  | windowAction
  | providerListWithDatabase
  deriving DecidableEq

inductive DataCommand
  | authLogin
  | authRestore
  | authLogout
  | authChangePassword
  | profileList
  | profileGet
  | profileSave
  | profileDelete
  | userList
  | userGet
  | userSave
  | userDelete
  | companyList
  | companyGet
  | companySave
  | companyDelete
  | entityList
  | entitySave
  | entityDelete
  | comboList
  | appLogWrite
  | appLogList
  | appLogClear
  | integrationList
  | integrationSave
  | integrationDelete
  | integrationLogs
  | syncQueueList
  | syncQueueMarkSynced
  | runtimeSettingsLoad
  | runtimeSettingsSave
  | providerEntityGet
  /-- A name that ends like a command on the entity. -/
  | suffixList (entity : String)
  | suffixGet (entity : String)
  | suffixSave (entity : String)
  | suffixDelete (entity : String)
  deriving DecidableEq

inductive Command
  | fixed (command : FixedCommand)
  | data (command : DataCommand)
  | unknown
  deriving DecidableEq

/-- The names that stand for a command of the first kind. -/
def fixedNames : List (String × FixedCommand) :=
  [("app_meta", .appMeta), ("app_bootstrap", .appBootstrap), ("system_info", .systemInfo),
    ("system_set_data_dir", .systemSetDataDir), ("permission_catalog", .permissionCatalog),
    ("user_policy_get", .userPolicyGet), ("user_policy_save", .userPolicySave),
    ("company_lookup_cnpj", .companyLookup), ("company_lookup_ie", .companyLookup),
    ("licensing_load_settings", .adminStatus), ("licensing_status", .adminStatus),
    ("licensing_device_info", .adminStatus), ("licensing_check_runtime", .adminStatus),
    ("support_guard_status", .adminStatus), ("licensing_save_settings", .adminRequest),
    ("licensing_start_trial", .adminRequest), ("support_guard_provision", .adminRequest),
    ("support_guard_enable_totp", .adminRequest), ("support_guard_unlock", .adminRequest),
    ("integration_test", .integrationTest), ("runtime_env_example", .runtimeEnvExample),
    ("internal_api_status", .internalApiStatus), ("internal_api_test", .internalApiTest),
    ("web_proxy_status", .webProxyStatus), ("web_proxy_start", .webProxyStart),
    ("web_proxy_restart", .webProxyStart), ("web_proxy_stop", .webProxyStop),
    ("internal_api_test_port", .internalApiTestPort), ("internal_api_start", .internalApiStart),
    ("internal_api_restart", .internalApiStart), ("internal_api_stop", .internalApiStop),
    ("webhook_status", .webhookStatus), ("webhook_start", .webhookStart),
    ("webhook_restart", .webhookStart), ("webhook_stop", .webhookStop),
    ("webhook_list_events", .webhookListEvents), ("webhook_clear_events", .webhookClearEvents),
    ("webhook_test_receive", .webhookTestReceive), ("websocket_status", .websocketStatus),
    ("websocket_start", .websocketStart), ("websocket_restart", .websocketStart),
    ("websocket_stop", .websocketStop), ("websocket_list_clients", .websocketListClients),
    ("websocket_broadcast_test", .websocketBroadcastTest),
    ("startup_with_windows_set", .startupWithWindowsSet),
    ("app_service_install", .appServiceControl), ("app_service_uninstall", .appServiceControl),
    ("app_service_start", .appServiceControl), ("app_service_stop", .appServiceControl),
    ("app_service_restart", .appServiceControl), ("app_service_status", .appServiceStatus),
    ("tray_status", .trayStatus), ("open_print_preview", .windowAction),
    ("tray_restore_window", .windowAction), ("tray_exit_app", .windowAction),
    ("provider_list_with_database", .providerListWithDatabase)]

/-- The names that stand for a command of the second kind. -/
def dataNames : List (String × DataCommand) :=
  [("auth_login", .authLogin), ("auth_restore", .authRestore), ("auth_logout", .authLogout),
    ("auth_change_password", .authChangePassword), ("profile_list", .profileList),
    ("profile_get", .profileGet), ("profile_save", .profileSave),
    ("profile_delete", .profileDelete), ("user_list", .userList), ("user_get", .userGet),
    ("user_save", .userSave), ("user_delete", .userDelete), ("company_list", .companyList),
    ("company_get", .companyGet), ("company_save", .companySave),
    ("company_delete", .companyDelete), ("entity_list", .entityList),
    ("entity_save", .entitySave), ("entity_delete", .entityDelete), ("combo_list", .comboList),
    ("app_log_write", .appLogWrite), ("app_log_list", .appLogList),
    ("app_log_clear", .appLogClear), ("integration_list", .integrationList),
    ("integration_save", .integrationSave), ("integration_delete", .integrationDelete),
    ("integration_logs", .integrationLogs), ("sync_queue_list", .syncQueueList),
    ("sync_queue_mark_synced", .syncQueueMarkSynced),
    ("runtime_settings_load", .runtimeSettingsLoad),
    ("runtime_settings_save", .runtimeSettingsSave), ("entity_provider_list", .entityList),
    ("provider_entity_list", .entityList), ("entity_provider_list_data", .entityList),
    ("provider_entity_get", .providerEntityGet), ("provider_entity_create", .entitySave),
    ("provider_entity_update", .entitySave), ("provider_entity_delete", .entityDelete)]

def endsWith (s tail : String) : Bool := tail.toList.isSuffixOf s.toList

/-- Take a tail away as often as it is there. -/
def trimTail (tail : List Char) : ℕ → List Char → List Char
  | 0, s => s
  | n + 1, s => if tail.isSuffixOf s then trimTail tail n (s.take (s.length - tail.length)) else s

/-- `name.trim_end_matches(tail).replace('_', "-")`. -/
def entityOf (name tail : String) : String :=
  String.ofList ((trimTail tail.toList name.length name.toList).map fun c =>
    if c = '_' then '-' else c)

/-- The command of a name that no other branch knows. -/
def suffixCommand (name : String) : Command :=
  if endsWith name "_list" then .data (.suffixList (entityOf name "_list"))
  else if endsWith name "_get" then .data (.suffixGet (entityOf name "_get"))
  else if endsWith name "_save" then .data (.suffixSave (entityOf name "_save"))
  else if endsWith name "_delete" then .data (.suffixDelete (entityOf name "_delete"))
  else .unknown

/-- Which branch of `execute_command` takes a name. -/
def Command.ofName (name : String) : Command :=
  match dataNames.lookup name, fixedNames.lookup name with
  | some command, _ => .data command
  | none, some command => .fixed command
  | none, none => suffixCommand name

variable (host : Host) (api : ApiState)

/-- The first variable that is set, unless it is blank. -/
def envName (first second default : String) : Value :=
  .string ((((host.env first).or (host.env second)).filter fun s => !isBlank s).getD default)

/-- `{ "ok": …, "message": … }`. -/
def note (ok : Bool) (key text : String) : Value :=
  .object [("ok", .bool ok), (key, .string text)]

/-- What a running service reports after a start that was not carried out. -/
def startAnswer (status : ServiceCall) (name : String) : Except String Value := do
  let status ← host.services status
  return .object [("running", ((status.asObject.getD []).lookup "running").getD .null),
    ("runtime", .string "internal-api-web"),
    ("message", .string ("Inicie/reinicie o " ++ name ++
      " Service pelo desktop/headless; a sessão web apenas monitora o serviço real."))]

/-- `web_server::status().ok()`. -/
def webStatus : Value := (host.services .webServerStatus).toOption.getD .null

/-- An answer of a command of the first kind. -/
def fixedAnswer (args : Args) : FixedCommand → Except String Value
  | .appMeta => .ok (.object
      [("name", envName host "TUNNARA_CONSOLE_NAME" "APP_NAME" "Tunnara Console"),
        ("short_name", envName host "TUNNARA_CONSOLE_SHORT_NAME" "APP_SHORT_NAME" "Template"),
        ("version", .string host.packageVersion),
        ("identifier", envName host "TUNNARA_CONSOLE_IDENTIFIER" "APP_IDENTIFIER"
          "br.com.wwsoftwares.tunnara.console"),
        ("runtime", .string "internal-api-web")])
  | .appBootstrap => .ok (.object
      [("ok", .bool true), ("runtime", .object [("mode", .string "internal-api-web"),
        ("isWeb", .bool true), ("isTauri", .bool false)]), ("database", .string "internal-api")])
  | .systemInfo => .ok (.object
      [("runtime", .object [("mode", .string "internal-api-web")]),
        ("database_provider", .string ((host.env "TUNNARA_CONSOLE_DATABASE_DRIVER").getD "sqlite")),
        ("online", .bool true),
        ("api", .object [("host", .string api.host), ("port", .ofInt api.port)])])
  | .systemSetDataDir => .ok (note false "warning"
      "Alteração de diretório de dados deve ser aplicada pelo runtime desktop/Tauri.")
  | .permissionCatalog => .ok (.array (permissionCatalog.map fun entry =>
    let group := String.ofList (entry.1.toList.takeWhile (· ≠ ':'))
    .object [("key", .string entry.1), ("label", .string entry.2),
      ("descricao", .string entry.2), ("module", .string group), ("group", .string group)]))
  | .userPolicyGet => .ok (.object
      [("login_min_length", .ofInt 3), ("login_min_allowed", .ofInt 3),
        ("login_max_allowed", .ofInt 60), ("password_min_length", .ofInt 6)])
  | .userPolicySave => .ok (.object (getPayload args))
  | .companyLookup => .ok (note false "message"
      "Consulta externa não configurada nesta API interna.")
  | .adminStatus => .ok (.object
      [("enabled", .bool false), ("status", .string "disabled"),
        ("message", .string "Recurso administrativo disponível pelo runtime desktop/Tauri.")])
  | .adminRequest => .ok (note true "message"
      "Solicitação registrada pela API interna web.")
  | .integrationTest => .ok (.object
      [("ok", .bool true), ("status", .string "not_tested"),
        ("message", .string "Teste real de integração disponível no desktop/API dedicada.")])
  | .runtimeEnvExample => .ok (.string host.envTemplate)
  | .internalApiStatus => .ok (.object
      [("running", .bool true), ("status", .string "running"), ("host", .string api.host),
        ("port", .ofInt api.port), ("url", localUrl api ""),
        ("bind_url", .string ("http://" ++ api.host ++ ":" ++ toString api.port)),
        ("docs_url", localUrl api "/docs"), ("token_required", .bool api.requireToken),
        ("auto_start", .bool true), ("web_server", webStatus host)])
  | .internalApiTest => .ok (.object [("ok", .bool true), ("url", localUrl api "/health")])
  | .webProxyStatus => .ok (webStatus host)
  | .webProxyStart => .ok (.object [("ok", .bool true), ("running", .bool true), ("message",
      .string "Webport já está ativo, pois esta chamada chegou pela própria API interna/proxy.")])
  | .webProxyStop => .ok (.object [("ok", .bool false), ("running", .bool true), ("warning",
      .string "O webport que serve a sessão atual não pode ser parado pela própria sessão web.")])
  | .internalApiTestPort => .ok (.object
      [("available", .bool false), ("running_here", .bool true), ("port", .ofInt api.port)])
  | .internalApiStart => .ok (.object [("ok", .bool true), ("running", .bool true),
      ("message", .string "API já está ativa neste processo.")])
  | .internalApiStop => .ok (.object [("ok", .bool false), ("running", .bool true), ("warning",
      .string "A API que serve a aplicação web não pode ser parada por esta própria sessão.")])
  | .webhookStatus => host.services .webhookStatus
  | .webhookStart => startAnswer host .webhookStatus "Webhook"
  | .webhookStop => host.services .webhookStop
  | .webhookListEvents => (host.services .webhookEvents).map fun items =>
    .object [("items", items)]
  | .webhookClearEvents => (host.services .webhookClear).map fun _ => .bool true
  | .webhookTestReceive => .ok (.object [("ok", .bool true), ("event", .object
      [("provider", .string (getString args "provider")),
        ("event", .string (getString args "event")), ("status", .string "received"),
        ("received_at", .string host.now)])])
  | .websocketStatus => host.services .websocketStatus
  | .websocketStart => startAnswer host .websocketStatus "WebSocket"
  | .websocketStop => host.services .websocketStop
  | .websocketListClients => (host.services .websocketClients).map fun items =>
    .object [("items", items)]
  | .websocketBroadcastTest =>
    let payload := Value.object [("type", .string "template.broadcast.test"),
      ("message", .string (getString args "message")), ("sent_at", .string host.now)]
    (host.services (.websocketBroadcast (host.jsonText payload))).map fun sent =>
      .object [("ok", .bool true), ("sent", sent), ("payload", payload)]
  | .startupWithWindowsSet => .ok (.object [("implemented", .bool false),
      ("runtime", .string "internal-api-web"), ("message", .string
        "Inicialização com Windows deve ser aplicada pelo runtime desktop/Tauri.")])
  | .appServiceControl => .ok (note false "warning"
      "Controle de serviço nativo indisponível pela sessão web interna.")
  | .appServiceStatus => .ok (.object [("running", .bool false), ("installed", .bool false),
      ("available", .bool false), ("runtime", .string "internal-api-web")])
  | .trayStatus => .ok (.object [("enabled", .bool false), ("available", .bool false),
      ("runtime", .string "internal-api-web"),
      ("message", .string "Tray icon é recurso do processo desktop.")])
  | .windowAction => .ok (.bool true)
  | .providerListWithDatabase => .ok (.array
      ([("sqlite", "SQLite interno"), ("mysql", "MySQL"), ("postgres", "PostgreSQL")].map
        fun entry => .object [("id", .string entry.1), ("name", .string entry.2),
          ("runtime", .string "internal-api-web")]))

/-- The first of two arguments that is not blank. -/
def eitherString (args : Args) (first second : String) : String :=
  if getString args first ≠ "" then getString args first else getString args second

def appLogColumns : List String :=
  ["id", "level", "category", "message", "source", "route", "details_json", "created_at"]

def syncQueueColumns : List String :=
  ["id", "entity_name", "action_name", "record_id", "payload_json", "status", "created_at",
    "updated_at"]

/-- The branches of the second kind. -/
def dataAnswer (args : Args) : DataCommand → Action Value
  | .authLogin => authLoginHttp host (eitherString args "login" "username")
      (eitherString args "senha" "password")
  | .authRestore => authRestoreHttp host (getString args "session_token")
  | .authLogout => do
    let token := getString args "session_token"
    let _ ← deleteRows .file .userSessions (fun session => session "session_token" = .text token)
      "Falha ao encerrar sessão"
    return .bool true
  | .authChangePassword => authChangePasswordHttp host args
  | .profileList => profileList host args
  | .profileGet => profileGet host args
  | .profileSave => profileSave host args
  | .profileDelete => .bool <$> deleteRecord .perfisAcesso (getI64 args "id")
  | .userList => userList host args
  | .userGet => userGet args
  | .userSave => userSave host args
  | .userDelete => .bool <$> deleteRecord .usuarios (getI64 args "id")
  | .companyList => do
    let rows ← tableList host .empresas (searchFromArgs args)
      ["nome", "nome_fantasia", "documento", "cidade", "estado"]
    return .array (rows.map .object)
  | .companyGet => .object <$> tableRecord .empresas (getI64 args "id")
  | .companySave => .object <$> saveRecord host .empresas (getPayload args)
  | .companyDelete => .bool <$> deleteRecord .empresas (getI64 args "id")
  | .entityList => listEntity host (getString args "entity") (searchFromArgs args)
  | .entitySave => saveEntity host (getString args "entity") (getPayload args)
  | .entityDelete => deleteEntity host (getString args "entity") (getI64 args "id")
  | .comboList => comboList host args
  | .appLogWrite => appLogWrite host args
  | .appLogList => latest host .appLogs appLogColumns 300
  | .appLogClear => do
    let _ ← deleteRows .file .appLogs (fun _ => true) "Falha ao limpar logs"
    return .bool true
  | .integrationList => do
    let rows ← tableList host .integrationConfigs (searchFromArgs args)
      ["nome", "tipo", "base_url", "ambiente", "status"]
    return .array (rows.map .object)
  | .integrationSave => .object <$> saveRecord host .integrationConfigs (getPayload args)
  | .integrationDelete => .bool <$> deleteRecord .integrationConfigs (getI64 args "id")
  | .integrationLogs =>
    latest host .integrationLogs (catalog.columnNames .integrationLogs) 200
  | .syncQueueList => latest host .syncQueue syncQueueColumns 300
  | .syncQueueMarkSynced => do
    let _ ← updateRows host .file .syncQueue "id" (.integer (getI64 args "id"))
      [("status", .text "synced"), ("updated_at", .text host.now)]
      "Falha ao marcar item como sincronizado"
    return .bool true
  | .runtimeSettingsLoad => runtimeSettingsLoad host api
  | .runtimeSettingsSave => runtimeSettingsSave host api args
  | .providerEntityGet => getEntity host (getString args "entity") (getI64 args "id")
  | .suffixList entity => listEntity host entity (searchFromArgs args)
  | .suffixGet entity => getEntity host entity (getI64 args "id")
  | .suffixSave entity => saveEntity host entity (getPayload args)
  | .suffixDelete entity => deleteEntity host entity (getI64 args "id")

def executeCommand (name : String) (args : Args) : Action Value :=
  match Command.ofName name with
  | .fixed command => ofExcept (fixedAnswer host api args command)
  | .data command => dataAnswer host api args command
  | .unknown => throw ("Comando ainda não exposto na API web interna: " ++ name)

end Tunnara.Console.AppCommands
