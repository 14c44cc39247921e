/-
# When a request is answered

The request handlers of the Control, of the Edge and of the local API of an agent. Each turns what
is thrown in its `try` block into a response. What stands before the block, and what is thrown
when the headers are already sent, rejects the promise instead. The endpoints are parameters:
each computes, or throws, and replies once as its last statement.
-/

import Tunnara.Http.Response
import Tunnara.Edge.Forwarding

namespace Tunnara.Http

open Attempt

/-- The value of a header that the parser admits. -/
abbrev FieldValue := { s : String // s.toList.all isHeaderChar }

structure Request where
  (method url : String)
  headers : List (String × FieldValue)

/-- `req.headers[name]`. -/
def Request.header (request : Request) (name : String) : Option String :=
  (request.headers.lookup name).map Subtype.val

/-- `req.headers[name] || d`. -/
def Request.headerOr (request : Request) (name d : String) : String :=
  match request.header name with
  | none | some "" => d
  | some value => value

/-- `new URL(req.url, base)`. -/
def requestUrl (host : Host) (request : Request) : Option Url :=
  host.url request.url ("http://" ++ request.headerOr "host" "localhost")

def invalidUrl : HttpError := plainError "Invalid URL"

def bearerToken (host : Host) (request : Request) : String :=
  let value := request.headerOr "authorization" ""
  if startsWith (host.toLowerCase value) "bearer " then
    trim (String.ofList (value.toList.drop 7))
  else ""

/-- `Buffer.from(text)`. -/
def bufferFrom (text : String) : List UInt8 := text.toUTF8.toList

def timingSafeEqual (a b : List UInt8) : Except HttpError Bool :=
  if a.length ≠ b.length then
    .error (plainError "Input buffers must have the same byte length")
  else .ok (a = b)

/-- The engine and the platform, with `Buffer.from(JSON.stringify(payload))`: it throws on
very deep values, of which an object of texts is none. -/
structure Platform where
  host : Host
  stringify : Json → Except HttpError (List UInt8)
  shallow : ∀ fields : List (String × String), ∃ body,
    stringify (.obj (fields.map fun field => (field.1, .str field.2))) = .ok body

def textObject (fields : List (String × String)) : Json :=
  .obj (fields.map fun field => (field.1, .str field.2))

section

variable (platform : Platform)

def jsonHeaders (length : ℕ) : List Header :=
  [("Content-Type", .text "application/json; charset=utf-8"), ("Content-Length", .number length),
    ("Cache-Control", .text "no-store"), ("X-Content-Type-Options", .text "nosniff")]

def sendJson (status : ℤ) (payload : Json) : Handler Unit := do
  let body ← compute (platform.stringify payload)
  writeHead status (jsonHeaders body.length)
  finish

/-- `sendJson` of an error. -/
def sendError (status : ℤ) (error message : String) : Handler Unit :=
  sendJson platform status (textObject [("error", error), ("message", message)])

/-- `Number(error.statusCode) || d`. -/
def statusOr (error : HttpError) (d : ℤ) : ℤ :=
  match error.statusCode with
  | none | some 0 => d
  | some status => status

/-- `jsonRouteError`, with `publicError`. -/
def jsonRouteError (error : HttpError) : Handler Unit :=
  sendError platform (statusOr error 500) (error.code.getD "TUNNARA_ERROR") error.message

/-- What an endpoint ends with. -/
inductive Reply
  | json (status : { status : ℤ // IsStatus status }) (payload : Json)
  /-- `res.writeHead(204); res.end()`. -/
  | noContent

def sendNoContent : Handler Unit := do
  writeHead 204 []
  finish

def send : Reply → Handler Unit
  | .json status payload => sendJson platform status payload
  | .noContent => sendNoContent

def version : String := "2.0.0-rc.8"

def health (service : String) : Handler Unit :=
  sendJson platform 200 (textObject [("status", "ok"), ("service", service), ("version", version)])

def metricsHeaders : List Header :=
  [("Content-Type", .text "text/plain; version=0.0.4; charset=utf-8"),
    ("Cache-Control", .text "no-store")]

end

structure ControlServer extends Platform where
  /-- `TUNNARA_CORS_ORIGIN`. -/
  corsOrigin : String
  /-- `TUNNARA_METRICS_PUBLIC === 'true'`. -/
  metricsPublic : Bool
  /-- `TUNNARA_CLUSTER_TOKEN`. -/
  clusterToken : String
  /-- `#auth(req, ['api'], 'metrics:read')`. -/
  authMetrics : Request → Except HttpError Unit
  /-- The three counts that are read for the metrics. -/
  counts : Except HttpError (List ℕ)
  /-- The other endpoints. -/
  endpoint : Request → Url → Except HttpError Reply

namespace ControlServer

variable (server : ControlServer) (request : Request)

def secureHeaders : Handler Unit := do
  setHeader "X-Content-Type-Options" (.text "nosniff")
  setHeader "X-Frame-Options" (.text "DENY")
  setHeader "Referrer-Policy" (.text "no-referrer")
  setHeader "Permissions-Policy" (.text "camera=(), microphone=(), geolocation=()")
  setHeader "Content-Security-Policy" (.text "default-src 'none'; frame-ancestors 'none'")
  setHeader "X-Tunnara-Version" (.text version)

def allowedOrigin : Option String :=
  let configured := ((splitChar ',' server.corsOrigin).map trim).filter (· ≠ "")
  let origin := request.headerOr "origin" ""
  if "*" ∈ configured then some "*"
  else if origin ≠ "" ∧ origin ∈ configured then some origin
  else none

def setOrigin : Option String → Handler Unit
  | some origin => setHeader "Access-Control-Allow-Origin" (.text origin)
  | none => pure ()

/-- `#cors`: whether the request is answered. -/
def cors : Handler Bool := do
  secureHeaders
  setOrigin (server.allowedOrigin request)
  setHeader "Access-Control-Allow-Headers"
    (.text "Authorization, Content-Type, X-Tunnara-Provisioning-Token, X-Request-Id")
  setHeader "Access-Control-Allow-Methods" (.text "GET, POST, PUT, PATCH, DELETE, OPTIONS")
  setHeader "Access-Control-Max-Age" (.text "600")
  setHeader "Vary" (.text "Origin")
  if request.method = "OPTIONS" then do
    sendNoContent
    pure true
  else pure false

def clusterAuth : Except HttpError Unit :=
  let refused : HttpError :=
    { message := "Credencial interna do cluster inválida."
      statusCode := some 401
      code := some "CLUSTER_UNAUTHENTICATED"
      valid := by
        rintro status ⟨⟩
        decide }
  let received := request.headerOr "x-tunnara-cluster-token" (bearerToken server.host request)
  if server.clusterToken = "" ∨ jsLength received ≠ jsLength server.clusterToken then
    .error refused
  else
    match timingSafeEqual (bufferFrom received) (bufferFrom server.clusterToken) with
    | .ok true => .ok ()
    | .ok false => .error refused
    | .error error => .error error

/-- The authentication of `GET /metrics`. -/
def authorizeMetrics : Except HttpError Unit :=
  if server.metricsPublic then .ok ()
  else
    match server.clusterAuth request with
    | .ok _ => .ok ()
    | .error _ => server.authMetrics request

/-- The arguments of `render` are evaluated after the headers are sent. -/
def serveMetrics : Handler Unit := do
  compute (server.authorizeMetrics request)
  writeHead 200 metricsHeaders
  let _ ← compute server.counts
  finish

def isMetrics (url : Url) : Prop := request.method = "GET" ∧ url.pathname = "/metrics"

def isHealth (url : Url) : Prop :=
  request.method = "GET" ∧ (url.pathname = "/healthz" ∨ url.pathname = "/api/v1/health")

instance (url : Url) : Decidable (isMetrics request url) := inferInstanceAs (Decidable (_ ∧ _))
instance (url : Url) : Decidable (isHealth request url) := inferInstanceAs (Decidable (_ ∧ (_ ∨ _)))

/-- The `try` block of `#handle`. -/
def route (url : Url) : Handler Unit :=
  if isHealth request url then health server.toPlatform "control"
  else if isMetrics request url then server.serveMetrics request
  else do
    let reply ← compute (server.endpoint request url)
    send server.toPlatform reply

def setRetryAfter : Option ℕ → Handler Unit
  | none | some 0 => pure ()
  | some seconds => setHeader "Retry-After" (.number seconds)

/-- The `catch` block. -/
def fail (error : HttpError) : Handler Unit := do
  setRetryAfter error.retryAfter
  jsonRouteError server.toPlatform error

def handle : Handler Unit := do
  if ← server.cors request then pure ()
  else
    match requestUrl server.host request with
    | none => throw invalidUrl
    | some url => tryCatch (server.route request url) server.fail

end ControlServer

/-- What a forwarded request is answered with: by the Edge, or with the status and the
headers of the decision or of the agent, after which the inspection is recorded. -/
inductive Forwarded
  | json (status : { status : ℤ // IsStatus status }) (payload : Json)
  | head (status : ℤ) (headers : List Header) (recorded : Except HttpError Unit)

structure EdgeServer extends Platform where
  metricsPublic : Bool
  clusterToken : String
  /-- The route, the decision, the body and the Relay's answer for a host name. -/
  forward : Request → String → Except HttpError Forwarded

namespace EdgeServer

variable (server : EdgeServer) (request : Request)

/-- Whether the metrics may be read. -/
def metricsAllowed : Except HttpError Bool :=
  let received := request.headerOr "x-tunnara-cluster-token" ""
  if server.metricsPublic then .ok true
  else if server.clusterToken ≠ "" ∧ jsLength server.clusterToken = jsLength received then
    timingSafeEqual (bufferFrom server.clusterToken) (bufferFrom received)
  else .ok false

def serveMetrics : Handler Unit := do
  if ← compute (server.metricsAllowed request) then do
    writeHead 200 metricsHeaders
    finish
  else sendError server.toPlatform 403 "FORBIDDEN" "Métricas protegidas."

/-- The `try` block of `#handle`. -/
def proxy : Handler Unit :=
  match Edge.normalizeHostname server.host ((request.header "host").map HeaderValue.one) with
  | none => sendError server.toPlatform 400 "HOST_INVALID" "Host inválido."
  | some hostname => do
    match ← compute (server.forward request hostname) with
    | .json status payload => sendJson server.toPlatform status payload
    | .head status headers recorded =>
      writeHead status headers
      finish
      compute recorded

/-- The `catch` block. The inspection that it records has no body to convert, and what the
store throws is caught. -/
def fail (error : HttpError) : Handler Unit := do
  let response ← get
  if response.status.isNone then
    sendError server.toPlatform (statusOr error 502)
      (match error.code with
        | none | some "" => "EDGE_PROXY_FAILED"
        | some code => code)
      error.message
  else destroy

def handle : Handler Unit :=
  if request.url = "/healthz" ∨ request.url = "/__tunnara/healthz" then
    health server.toPlatform "edge"
  else if request.url = "/__tunnara/metrics" then server.serveMetrics request
  else tryCatch (server.proxy request) server.fail

end EdgeServer

structure AgentLocalApi extends Platform where
  localApiToken : String
  /-- The endpoints behind the authentication. -/
  endpoint : Request → Url → Except HttpError Reply

namespace AgentLocalApi

variable (server : AgentLocalApi) (request : Request)

def auth : Except HttpError Unit :=
  let bearer := bearerToken server.host request
  let token := if bearer = "" then request.headerOr "x-tunnara-local-token" "" else bearer
  if server.localApiToken = "" ∨ jsLength token ≠ jsLength server.localApiToken ∨
      token ≠ server.localApiToken then
    .error
      { message := "Token da API local inválido."
        statusCode := some 401
        code := some "LOCAL_API_UNAUTHENTICATED"
        valid := by
          rintro status ⟨⟩
          decide }
  else .ok ()

/-- The `try` block of `#handle`. -/
def route (url : Url) : Handler Unit :=
  if request.method = "GET" ∧ url.pathname = "/healthz" then
    health server.toPlatform "agent-local-api"
  else do
    compute (server.auth request)
    let reply ← compute (server.endpoint request url)
    send server.toPlatform reply

def handle : Handler Unit :=
  match requestUrl server.host request with
  | none => throw invalidUrl
  | some url => tryCatch (server.route request url) (jsonRouteError server.toPlatform)

end AgentLocalApi

end Tunnara.Http
