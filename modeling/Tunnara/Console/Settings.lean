/-
# Runtime settings of the Console

What `save_settings` makes of the settings of the dialog, and the configurations that the
services are started with. The fields that no service here reads are left out, and so is the
`.env` file: after the first save the row of `app_settings` is what counts.
-/

import Tunnara.Console.Http

namespace Tunnara.Console

structure RuntimeSettings where
  internalApiHost : String
  internalApiPort : ℕ
  (internalApiBaseUrl internalApiDocsUrl : String)
  (internalApiRequireToken internalApiAllowPublicNetwork internalApiCorsEnabled : Bool)
  (internalApiTokenHeader internalApiToken : String)
  internalApiTimeoutMs : ℕ
  internalApiLogMode : String
  internalApiDocsEnabled : Bool
  internalApiDocsPath : String
  localWebEnabled : Bool
  localWebHost : String
  localWebPort : ℕ
  auxiliaryHost : String
  auxiliaryPort : ℕ
  bridgeCoreHost : String
  bridgeCorePort : ℕ
  webhookEnabled : Bool
  webhookHost : String
  webhookPort : ℕ
  webhookBasePath : String
  webhookTokenRequired : Bool
  (webhookTokenHeader webhookToken : String)
  (webhookAllowLan webhookAllowExternal websocketEnabled : Bool)
  websocketHost : String
  websocketPort : ℕ
  websocketPath : String
  websocketTokenRequired : Bool
  (websocketTokenQuery websocketTokenHeader websocketToken : String)
  (websocketAllowLan websocketAllowExternal : Bool)
  websocketHeartbeatSeconds : ℕ
  appServiceName : String
  deriving DecidableEq

def isPublicBindHost (host : String) : Bool := trimText host ∈ ["0.0.0.0", "::", "[::]"]

def publicUrlHost (host : String) : String :=
  if trimText host ∈ ["0.0.0.0", "::", "[::]", ""] then "127.0.0.1" else trimText host

def orText (value default : String) : String := if isBlank value then default else value

/-- A number that is not zero stays as it is. -/
def orNumber (value default : ℕ) : ℕ := if value = 0 then default else value

/-- A path without its slash gets one. -/
def rooted (path : String) : String :=
  if startsWith path "/" then path else "/" ++ trimText path

/-- An address that was derived from an earlier host or port is derived again. -/
def derivedUrl (value derived : String) : String :=
  if isBlank value || includes value "127.0.0.1:61001" || includes value "0.0.0.0" ||
      includes value "[::]" then derived
  else value

namespace RuntimeSettings

variable (settings : RuntimeSettings)

/-- `http://{public_host}:{port}` of the internal API. -/
def internalApiUrl : String :=
  "http://" ++ publicUrlHost (orText settings.internalApiHost "127.0.0.1") ++ ":" ++
    toString (orNumber settings.internalApiPort 61001)

/-- `normalize_runtime_settings`. -/
def normalize : RuntimeSettings :=
  let internalApiHost := orText settings.internalApiHost "127.0.0.1"
  let docsPath := rooted (orText settings.internalApiDocsPath "/docs")
  let webhookHost := orText settings.webhookHost "127.0.0.1"
  let webhookPort := orNumber settings.webhookPort 61003
  let websocketHost := orText settings.websocketHost "127.0.0.1"
  let websocketPort := orNumber settings.websocketPort 61004
  { settings with
    internalApiHost
    internalApiAllowPublicNetwork :=
      isPublicBindHost internalApiHost || settings.internalApiAllowPublicNetwork
    internalApiCorsEnabled := isPublicBindHost internalApiHost || settings.internalApiCorsEnabled
    internalApiPort := orNumber settings.internalApiPort 61001
    internalApiBaseUrl := derivedUrl settings.internalApiBaseUrl settings.internalApiUrl
    internalApiDocsPath := docsPath
    internalApiDocsUrl := derivedUrl settings.internalApiDocsUrl (settings.internalApiUrl ++ docsPath)
    internalApiTimeoutMs := max settings.internalApiTimeoutMs 1000
    localWebHost := orText settings.localWebHost "127.0.0.1"
    localWebPort := orNumber settings.localWebPort 61002
    internalApiLogMode := orText settings.internalApiLogMode "normal"
    internalApiTokenHeader := orText settings.internalApiTokenHeader "X-App-Token"
    webhookHost
    webhookAllowLan := isPublicBindHost webhookHost || settings.webhookAllowLan
    webhookPort
    webhookBasePath := rooted (orText settings.webhookBasePath "/webhooks")
    webhookTokenHeader := orText settings.webhookTokenHeader "X-Webhook-Token"
    auxiliaryHost := webhookHost
    auxiliaryPort := webhookPort
    websocketHost
    websocketAllowLan := isPublicBindHost websocketHost || settings.websocketAllowLan
    websocketPort
    websocketPath := rooted (orText settings.websocketPath "/ws")
    websocketTokenQuery := orText settings.websocketTokenQuery "token"
    websocketTokenHeader := orText settings.websocketTokenHeader "X-WebSocket-Token"
    websocketHeartbeatSeconds := orNumber settings.websocketHeartbeatSeconds 30
    bridgeCoreHost := websocketHost
    bridgeCorePort := websocketPort
    appServiceName := orText settings.appServiceName "TunnaraConsoleServer" }

/-- The ports of the services that are switched on. -/
def activePorts : List ℕ :=
  [settings.internalApiPort] ++ (if settings.localWebEnabled then [settings.localWebPort] else []) ++
    (if settings.webhookEnabled then [settings.webhookPort] else []) ++
    (if settings.websocketEnabled then [settings.websocketPort] else [])

/-- `save_settings`: the settings as the row of `app_settings` holds them. After normalisation no
port is 0, so the check of their range finds nothing. -/
def save : Except String RuntimeSettings :=
  if settings.normalize.activePorts.Nodup then .ok settings.normalize
  else .error
    "Há portas configuradas em conflito entre serviços ativos. Ajuste antes de salvar."

end RuntimeSettings

/-- `normalize_path` of either service. -/
def normalizePath (default path : String) : String :=
  let trimmed := trimText path
  if trimmed = "" then default
  else if startsWith trimmed "/" then trimEndChar '/' trimmed
  else "/" ++ trimEndChar '/' trimmed

structure WebhookConfig where
  enabled : Bool
  host : String
  port : ℕ
  basePath : String
  tokenRequired : Bool
  (tokenHeader token : String)
  (allowLan allowExternal : Bool)

def WebhookConfig.fromRuntimeSettings (settings : RuntimeSettings) : WebhookConfig where
  enabled := settings.webhookEnabled
  host := settings.webhookHost
  port := settings.webhookPort
  basePath := normalizePath "/webhooks" settings.webhookBasePath
  tokenRequired := settings.webhookTokenRequired
  tokenHeader := settings.webhookTokenHeader
  token := settings.webhookToken
  allowLan := settings.webhookAllowLan
  allowExternal := settings.webhookAllowExternal

structure WebSocketConfig where
  enabled : Bool
  host : String
  port : ℕ
  path : String
  tokenRequired : Bool
  (tokenQuery tokenHeader token : String)
  (allowLan allowExternal : Bool)
  heartbeatSeconds : ℕ

def WebSocketConfig.fromRuntimeSettings (settings : RuntimeSettings) : WebSocketConfig where
  enabled := settings.websocketEnabled
  host := settings.websocketHost
  port := settings.websocketPort
  path := normalizePath "/ws" settings.websocketPath
  tokenRequired := settings.websocketTokenRequired
  tokenQuery := settings.websocketTokenQuery
  tokenHeader := settings.websocketTokenHeader
  token := settings.websocketToken
  allowLan := settings.websocketAllowLan
  allowExternal := settings.websocketAllowExternal
  heartbeatSeconds := settings.websocketHeartbeatSeconds

/-- `resolve_webhook_config`: `load_settings` normalises the stored settings again. -/
def resolveWebhookConfig (stored : RuntimeSettings) : WebhookConfig :=
  .fromRuntimeSettings stored.normalize

def resolveWebSocketConfig (stored : RuntimeSettings) : WebSocketConfig :=
  .fromRuntimeSettings stored.normalize

/-- The configurations that a service can be started with after a save. -/
def SavedWebhookConfig (config : WebhookConfig) : Prop :=
  ∃ settings stored : RuntimeSettings, settings.save = .ok stored ∧
    config = resolveWebhookConfig stored

def SavedWebSocketConfig (config : WebSocketConfig) : Prop :=
  ∃ settings stored : RuntimeSettings, settings.save = .ok stored ∧
    config = resolveWebSocketConfig stored

/-- The settings of the `.env` template, with both services switched on. -/
def templateSettings : RuntimeSettings where
  internalApiHost := "127.0.0.1"
  internalApiPort := 61001
  internalApiBaseUrl := "http://127.0.0.1:61001"
  internalApiDocsUrl := "http://127.0.0.1:61001/docs"
  internalApiRequireToken := false
  internalApiAllowPublicNetwork := false
  internalApiCorsEnabled := false
  internalApiTokenHeader := "X-App-Token"
  internalApiToken := ""
  internalApiTimeoutMs := 8000
  internalApiLogMode := "normal"
  internalApiDocsEnabled := true
  internalApiDocsPath := "/docs"
  localWebEnabled := true
  localWebHost := "127.0.0.1"
  localWebPort := 61002
  auxiliaryHost := "127.0.0.1"
  auxiliaryPort := 61003
  bridgeCoreHost := "127.0.0.1"
  bridgeCorePort := 61004
  webhookEnabled := true
  webhookHost := "127.0.0.1"
  webhookPort := 61003
  webhookBasePath := "/webhooks"
  webhookTokenRequired := true
  webhookTokenHeader := "X-Webhook-Token"
  webhookToken := ""
  webhookAllowLan := false
  webhookAllowExternal := false
  websocketEnabled := true
  websocketHost := "127.0.0.1"
  websocketPort := 61004
  websocketPath := "/ws"
  websocketTokenRequired := true
  websocketTokenQuery := "token"
  websocketTokenHeader := "X-WebSocket-Token"
  websocketToken := ""
  websocketAllowLan := false
  websocketAllowExternal := false
  websocketHeartbeatSeconds := 30
  appServiceName := "TunnaraConsoleServer"

example : templateSettings.save = .ok templateSettings := by decide +kernel

end Tunnara.Console
