/-
# The ways into the internal API

The router of the internal API puts `token_guard` before its commands and data. The web port
leads to the same handlers: it runs commands in its own process without any guard, and what
it forwards to the API it gives the configured token along.
-/

import Tunnara.Console.Settings

namespace Tunnara.Console

structure InternalApiConfig where
  host : String
  port : ℕ
  baseUrl : String
  exposeDocs : Bool
  docsPath : String
  requireToken : Bool
  tokenHeader : String
  token : Option String
  (docsPublic docsPublicLocal : Bool)

def normalizeDocsPath (path : String) : String :=
  if trimText path = "" then "/docs"
  else if startsWith (trimText path) "/" then trimText path
  else "/" ++ trimText path

/-- `resolve_internal_api_config`; the two flags of public docs are not among these settings. -/
def resolveInternalApiConfig (stored : RuntimeSettings) (docsPublic docsPublicLocal : Bool) :
    InternalApiConfig :=
  let settings := stored.normalize
  { host := settings.internalApiHost
    port := settings.internalApiPort
    baseUrl := "http://" ++ publicUrlHost settings.internalApiHost ++ ":" ++
      toString settings.internalApiPort
    exposeDocs := settings.internalApiDocsEnabled
    docsPath := normalizeDocsPath settings.internalApiDocsPath
    requireToken := settings.internalApiRequireToken
    tokenHeader := settings.internalApiTokenHeader
    token := if isBlank settings.internalApiToken then none else some settings.internalApiToken
    docsPublic, docsPublicLocal }

inductive ApiEndpoint
  | root
  | health
  | command
  | version
  | status
  | appMeta
  | features
  | logs
  | openapi
  | scalarDocs

/-- `Json<CommandRequest>`. -/
structure CommandRequest where
  command : String
  args : List (String × Json)

/-- What comes of a request. -/
inductive Served
  /-- `execute_command` has run. -/
  | command (request : CommandRequest)
  /-- A guarded handler has answered with its data. -/
  | data (endpoint : ApiEndpoint)
  /-- The open handlers: state of health, documents, the pages of the interface. -/
  | other
  | blocked (status : ℕ)
  | refused

structure ApiEnv where
  axum : Axum
  /-- The `Json` extractor. -/
  readCommand : HttpRequest → Option CommandRequest

/-- `docs_are_public_for_current_bind`. -/
def InternalApiConfig.docsArePublic (config : InternalApiConfig) : Bool :=
  config.docsPublic || (config.docsPublicLocal &&
    trimText config.host ∈ ["127.0.0.1", "localhost", "::1", "[::1]", "0.0.0.0", "::", "[::]"])

/-- The text before the first `=` of a pair, and what follows it. -/
def splitPair (pair : String) : String × String :=
  (String.ofList (pair.toList.takeWhile (· ≠ '=')),
    String.ofList ((pair.toList.dropWhile (· ≠ '=')).drop 1))

/-- The pairs of the query in the order they stand in. -/
def HttpRequest.queryPairs (request : HttpRequest) : List (String × String) :=
  match request.query with
  | some query => (splitChar '&' query).map splitPair
  | none => []

def tokenParameters : List String := ["token", "api_token", "x-app-token"]

namespace InternalApiConfig

variable (config : InternalApiConfig)

def configuredToken : String := trimText (config.token.getD "")

/-- The token that `token_guard` reads: the header, else the first of the parameters. -/
def receivedToken (request : HttpRequest) : String :=
  let header := trimText (request.headerText config.tokenHeader)
  let query := request.queryPairs.find? fun pair => pair.1 ∈ tokenParameters
  if header = "" then (query.map fun pair => trimText pair.2).getD "" else header

/-- `token_guard`; `none` lets the request through. -/
def tokenGuard (request : HttpRequest) : Option ℕ :=
  if !config.requireToken then none
  else if config.configuredToken = "" then some 503
  else if !isHeaderName config.tokenHeader then some 500
  else if config.receivedToken request ≠ config.configuredToken then some 401
  else none

def protectedRoutes : List (Route ApiEndpoint) :=
  [⟨"/api/command", .post, .command⟩, ⟨"/__internal_api/api/command", .post, .command⟩,
    ⟨"/version", .get, .version⟩, ⟨"/__internal_api/version", .get, .version⟩,
    ⟨"/status", .get, .status⟩, ⟨"/__internal_api/status", .get, .status⟩,
    ⟨"/app/meta", .get, .appMeta⟩, ⟨"/__internal_api/app/meta", .get, .appMeta⟩,
    ⟨"/features", .get, .features⟩, ⟨"/__internal_api/features", .get, .features⟩,
    ⟨"/logs", .get, .logs⟩, ⟨"/__internal_api/logs", .get, .logs⟩]

def docsRoutes : List (Route ApiEndpoint) :=
  [⟨"/openapi.json", .get, .openapi⟩, ⟨"/__internal_api/openapi.json", .get, .openapi⟩,
    ⟨config.docsPath, .get, .scalarDocs⟩,
    ⟨"/__internal_api" ++ config.docsPath, .get, .scalarDocs⟩]

def routes : List (Route ApiEndpoint) :=
  [⟨"/", .get, .root⟩, ⟨"/__internal_api/", .get, .root⟩, ⟨"/health", .get, .health⟩,
    ⟨"/__internal_api/health", .get, .health⟩] ++ protectedRoutes ++
    (if config.exposeDocs then config.docsRoutes else [])

/-- The endpoints that `token_guard` is the layer of. -/
def guards : ApiEndpoint → Bool
  | .command | .version | .status | .appMeta | .features | .logs => true
  | .openapi | .scalarDocs => config.requireToken && !config.docsArePublic
  | .root | .health => false

/-- The handler behind a route; to HEAD it answers without data. -/
def serve (env : ApiEnv) (request : HttpRequest) : ApiEndpoint → Served
  | .command => match env.readCommand request with
      | some command => .command command
      | none => .refused
  | .root | .health | .openapi | .scalarDocs => .other
  | endpoint => if request.method = "GET" then .data endpoint else .other

def handle (env : ApiEnv) (request : HttpRequest) : Served :=
  match env.axum.route config.routes request with
  | none => .refused
  | some endpoint =>
    match config.guards endpoint, config.tokenGuard request with
    | true, some status => .blocked status
    | _, _ => serve env request endpoint

end InternalApiConfig

inductive WebEndpoint
  | page
  | webHealth
  | webInternalHealth
  | webCommand
  | proxyInternalApi

/-- `WebProxyState`. -/
structure WebProxy where
  (apiBaseUrl apiTokenHeader apiToken : String)

/-- The platform of the web port, with what the HTTP client does. -/
structure WebEnv extends ApiEnv where
  /-- `to_bytes` with its limit of 10 MiB. -/
  readBytes : HttpRequest → Option (List UInt8)
  /-- The path and the query at which a URL reaches the internal API; `none` where it is no URL,
  leads elsewhere or is not answered. -/
  upstream : String → Option (String × Option String)
  /-- The headers that the client adds by itself. -/
  clientHeaders : List (String × List UInt8)

def webRoutes : List (Route WebEndpoint) :=
  [⟨"/", .get, .page⟩, ⟨"/index.html", .get, .page⟩, ⟨"/__web_health", .get, .webHealth⟩,
    ⟨"/__internal_api/health", .get, .webInternalHealth⟩,
    ⟨"/__internal_api/api/command", .post, .webCommand⟩,
    ⟨"/__internal_api", .any, .proxyInternalApi⟩, ⟨"/__internal_api/", .any, .proxyInternalApi⟩,
    ⟨"/__internal_api/*path", .any, .proxyInternalApi⟩, ⟨"/assets/*path", .get, .page⟩,
    ⟨"/branding/*path", .get, .page⟩, ⟨"/icons/*path", .get, .page⟩,
    ⟨"/manifest.webmanifest", .get, .page⟩, ⟨"/sw.js", .get, .page⟩, ⟨"/*path", .get, .page⟩]

namespace WebProxy

variable (proxy : WebProxy)

def upstreamUrl (request : HttpRequest) : String :=
  let path :=
    if startsWith request.path "/__internal_api" then
      String.ofList (request.path.toList.drop "/__internal_api".length)
    else request.path
  let query := match request.query with
    | some query => "?" ++ query
    | none => ""
  trimEndChar '/' proxy.apiBaseUrl ++ (if path = "" then "/" else path) ++ query

/-- A header that is passed on. -/
def passedOn (request : HttpRequest) (name : String) : List (String × List UInt8) :=
  match request.header? name with
  | some value => if (headerToStr value).isSome then [(name, value)] else []
  | none => []

def asciiBytes (text : String) : List UInt8 := text.toList.map fun c => UInt8.ofNat c.toNat

/-- The token header that `proxy_internal_api` adds; `none` where the client refuses it. -/
def addedHeader : Option (List (String × List UInt8)) :=
  let name := trimText proxy.apiTokenHeader
  let token := trimText proxy.apiToken
  if token = "" || name = "" then some []
  else if isHeaderName name && token.toList.all fun c => c = '\t' || (32 ≤ c.toNat && c.toNat < 127)
    then some [(name.map Char.toLower, asciiBytes token)]
  else none

/-- The request that `proxy_internal_api` makes. -/
def forwarded (env : WebEnv) (request : HttpRequest) : Option HttpRequest := do
  let body ← env.readBytes request
  let added ← proxy.addedHeader
  let (path, query) ← env.upstream (proxy.upstreamUrl request)
  return {
    method := request.method
    path, query
    headers := passedOn request "accept" ++ passedOn request "content-type" ++ added ++
      env.clientHeaders
    body }

def handle (config : InternalApiConfig) (env : WebEnv) (request : HttpRequest) : Served :=
  match env.axum.route webRoutes request with
  | none => .refused
  | some .page | some .webHealth | some .webInternalHealth => .other
  | some .webCommand => match env.readCommand request with
      | some command => .command command
      | none => .refused
  | some .proxyInternalApi => match proxy.forwarded env request with
      | some upstream => config.handle env.toApiEnv upstream
      | none => .refused

end WebProxy

/-- A command has run, or guarded data was answered. -/
def Served.Reached : Served → Prop
  | .command _ | .data _ => True
  | _ => False

instance : ∀ served : Served, Decidable served.Reached
  | .command _ | .data _ => isTrue trivial
  | .other | .blocked _ | .refused => isFalse id

inductive ConsolePort
  | api
  | web

def ConsolePort.handle (config : InternalApiConfig) (proxy : WebProxy) (env : WebEnv)
    (request : HttpRequest) : ConsolePort → Served
  | .api => config.handle env.toApiEnv request
  | .web => proxy.handle config env request

namespace InternalApiConfig

variable (config : InternalApiConfig)

/-- The request presents the configured token, in the header or in one of the parameters. -/
def Presented (request : HttpRequest) : Prop :=
  trimText (request.headerText config.tokenHeader) = config.configuredToken ∨
    ∃ pair ∈ request.queryPairs, pair.1 ∈ tokenParameters ∧ trimText pair.2 = config.configuredToken

/-- The path and the method lead to a guarded handler that has something to do. -/
def Leads (env : ApiEnv) (request : HttpRequest) : Prop :=
  ∃ endpoint, env.axum.route config.routes request = some endpoint ∧
    (serve env request endpoint).Reached

end InternalApiConfig

/-- **The condition** at the web port: the request is no command for the port itself, and what is
forwarded for it is not let through to a guarded handler, with the token that the proxy adds. -/
def WebProxy.Harmless (proxy : WebProxy) (config : InternalApiConfig) (env : WebEnv)
    (request : HttpRequest) : Prop :=
  (env.axum.route webRoutes request = some .webCommand → env.readCommand request = none) ∧
    (env.axum.route webRoutes request = some .proxyInternalApi →
      ∀ upstream, proxy.forwarded env request = some upstream → config.Leads env.toApiEnv upstream →
        config.tokenGuard upstream ≠ none)

section Guard

variable {config : InternalApiConfig} {request : HttpRequest}

theorem presented_of_received (hconfigured : config.configuredToken ≠ "")
    (h : config.receivedToken request = config.configuredToken) : config.Presented request := by
  unfold InternalApiConfig.receivedToken at h
  dsimp only at h
  split at h
  next hheader =>
    cases hquery : request.queryPairs.find? fun pair => pair.1 ∈ tokenParameters with
    | none =>
      rw [hquery] at h
      exact absurd h.symm hconfigured
    | some pair =>
      rw [hquery] at h
      have hname := List.find?_some hquery
      exact .inr ⟨pair, List.mem_of_find?_eq_some hquery, of_decide_eq_true hname, h⟩
  · exact .inl h

theorem received_of_tokenGuard (hrequired : config.requireToken = true)
    (h : config.tokenGuard request = none) :
    config.receivedToken request = config.configuredToken := by
  unfold InternalApiConfig.tokenGuard at h
  rw [hrequired] at h
  simp only [Bool.not_true, Bool.false_eq_true, if_false] at h
  split at h
  · cases h
  · split at h
    · cases h
    · split at h
      · cases h
      next heq => exact not_not.1 heq

theorem guards_of_reached {env : ApiEnv} {endpoint : ApiEndpoint}
    (h : (InternalApiConfig.serve env request endpoint).Reached) :
    config.guards endpoint = true := by
  cases endpoint with
  | root | health | openapi | scalarDocs => exact absurd h id
  | command | version | status | appMeta | features | logs => rfl

theorem handle_reached {env : ApiEnv} :
    (config.handle env request).Reached ↔
      config.Leads env request ∧ config.tokenGuard request = none := by
  unfold InternalApiConfig.handle InternalApiConfig.Leads
  cases hroute : env.axum.route config.routes request with
  | none => simp [Served.Reached]
  | some endpoint =>
    simp only [Option.some.injEq, exists_eq_left']
    cases hguard : config.tokenGuard request with
    | none => simp
    | some status =>
      cases hguards : config.guards endpoint with
      | true => simp [Served.Reached]
      | false =>
        have hnot : ¬ (InternalApiConfig.serve env request endpoint).Reached := fun h => by
          rw [@guards_of_reached config _ _ _ h] at hguards
          cases hguards
        simp [hnot]

theorem presented_of_api (hrequired : config.requireToken = true)
    (hconfigured : config.configuredToken ≠ "") {env : ApiEnv}
    (h : (config.handle env request).Reached) : config.Presented request :=
  presented_of_received hconfigured (received_of_tokenGuard hrequired (handle_reached.1 h).2)

theorem web_reached {proxy : WebProxy} {env : WebEnv} :
    (proxy.handle config env request).Reached ↔ ¬ proxy.Harmless config env request := by
  unfold WebProxy.handle WebProxy.Harmless
  cases hroute : env.axum.route webRoutes request with
  | none => simp [Served.Reached]
  | some endpoint =>
    cases endpoint with
    | page | webHealth | webInternalHealth => simp [Served.Reached]
    | webCommand =>
      cases hcommand : env.readCommand request with
      | none | some command => simp [Served.Reached]
    | proxyInternalApi =>
      cases hforwarded : proxy.forwarded env request with
      | none => simp [Served.Reached]
      | some upstream => simp [handle_reached]

end Guard

/-- **When the token guards every way in**, for every request at either port: always at the port
of the API, and at the web port if it presents the token itself or is harmless. -/
theorem guarded_iff (env : WebEnv) (proxy : WebProxy) {config : InternalApiConfig}
    (hrequired : config.requireToken = true) (hconfigured : config.configuredToken ≠ "")
    (port : ConsolePort) (request : HttpRequest) :
    ((port.handle config proxy env request).Reached → config.Presented request) ↔
      match port with
      | .api => True
      | .web => config.Presented request ∨ proxy.Harmless config env request := by
  cases port with
  | api => exact iff_of_true (presented_of_api hrequired hconfigured) trivial
  | web =>
    have hreached := @web_reached config request proxy env
    constructor
    · intro h
      by_cases hharmless : proxy.Harmless config env request
      · exact .inr hharmless
      · exact .inl (h (hreached.2 hharmless))
    · intro h hweb
      rcases h with hpresented | hharmless
      · exact hpresented
      · exact absurd hharmless (hreached.1 hweb)

def plainWebEnv : WebEnv where
  axum := .plain
  readCommand request := if request.body = [] then none else some ⟨"user_list", []⟩
  readBytes request := some request.body
  upstream url :=
    if startsWith url "http://127.0.0.1:61001/" then
      some (String.ofList (url.toList.drop "http://127.0.0.1:61001".length), none)
    else none
  clientHeaders := []

def secretSettings : RuntimeSettings :=
  { templateSettings with internalApiRequireToken := true, internalApiToken := "s3cret" }

def secretConfig : InternalApiConfig := resolveInternalApiConfig secretSettings false true

/-- `start_background` of the web server. -/
def WebProxy.fromRuntimeSettings (settings : RuntimeSettings) (config : InternalApiConfig) :
    WebProxy where
  apiBaseUrl := config.baseUrl
  apiTokenHeader := settings.internalApiTokenHeader
  apiToken := settings.internalApiToken

def secretProxy : WebProxy := .fromRuntimeSettings secretSettings secretConfig

def tokenRequest : HttpRequest :=
  ⟨"POST", "/__internal_api/api/command", some "token=s3cret", [], [123, 125]⟩

theorem guarded_iff_token :
    (ConsolePort.web.handle secretConfig secretProxy plainWebEnv tokenRequest).Reached ∧
      secretConfig.Presented tokenRequest := by
  have hreached : (ConsolePort.web.handle secretConfig secretProxy plainWebEnv
      tokenRequest).Reached := by decide +kernel
  refine ⟨hreached, ?_⟩
  have hguarded := @guarded_iff plainWebEnv secretProxy secretConfig (by decide +kernel)
    (by decide +kernel) .web tokenRequest
  exact hguarded.2
    (.inl (.inr ⟨("token", "s3cret"), by decide +kernel, by decide +kernel, by decide +kernel⟩))
    hreached

/-- Without a token a command runs at the web port, and the version is answered through it. -/
theorem not_guarded_web :
    ¬ ((ConsolePort.web.handle secretConfig secretProxy plainWebEnv
        ⟨"POST", "/__internal_api/api/command", none, [], [123, 125]⟩).Reached →
      secretConfig.Presented ⟨"POST", "/__internal_api/api/command", none, [], [123, 125]⟩) ∧
    ¬ ((ConsolePort.web.handle secretConfig secretProxy plainWebEnv
        ⟨"GET", "/__internal_api/version", none, [], []⟩).Reached →
      secretConfig.Presented ⟨"GET", "/__internal_api/version", none, [], []⟩) := by
  have hnot : ∀ method path body, ¬ secretConfig.Presented ⟨method, path, none, [], body⟩ := by
    intro method path body h
    rcases h with hheader | ⟨pair, hmem, _⟩
    · have hnone : (⟨method, path, none, [], body⟩ : HttpRequest).headerText
          secretConfig.tokenHeader = "" := by simp [HttpRequest.headerText, HttpRequest.header?]
      rw [hnone] at hheader
      exact absurd hheader (by decide +kernel)
    · cases hmem
  constructor
  · intro h
    exact hnot _ _ _ (h (by decide +kernel))
  · intro h
    exact hnot _ _ _ (h (by decide +kernel))

end Tunnara.Console
