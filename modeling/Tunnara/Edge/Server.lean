/-
# The HTTP Edge

`EdgeServer.#handle` and `EdgeServer.#upgrade`, cut at their awaits: the route, the decision, the
body, the connection to the Relay and what comes over it; every continuation is one event. Left
out are the answer to the client, the inspector, and the client's socket of a request. The socket
of an upgrade is handed over without listeners.
-/

import Tunnara.Edge.Forwarding

namespace Tunnara.Edge

open Policy Relay Transition

/-- What an Edge runs with. -/
structure Config where
  env : Env
  host : Host
  /-- `TUNNARA_TRUST_PROXY`. -/
  trustProxy : Bool := false
  /-- The server is an `https.Server`. -/
  secure : Bool := false

/-- For worked inputs. -/
def plainConfig : Config := { env := .plain [], host := .plain }

inductive ServerEvent
  /-- `#resolveHostname`, whose rejection counts as no route. -/
  | routeResolved (route : Option Json)
  /-- `evaluatePolicy` settles, with the rate-limit buckets it finds. -/
  | decided (buckets : RateBuckets)
  | bodyRead (body : Except JsError (List UInt8))
  | socket (event : SocketEvent)
  | timeout

/-- The connection before `#connectRelay` has made one. -/
def Link.absent : Link := { framed := { closed := true, destroyed := true }, gone := true }

/-- `route?.tunnel` and `route.target` are there. -/
def isRoutable (route : Option Json) : Bool :=
  truthy (optional route "tunnel") && truthy (optional route "target")

def Config.decision (config : Config) (route : Json) (request : Request) (hostname : String)
    (buckets : RateBuckets) : Except JsError PolicyResult :=
  ((policyDecision config.host config.trustProxy route request hostname).run buckets).1

variable (config : Config)

inductive RequestPhase
  | resolving
  | deciding (route : Json)
  | reading (route : Json) (decision : PolicyResult)
  | connecting (route : Json) (decision : PolicyResult) (headers : FrameHeaders)
      (body : List UInt8)
  /-- `onceFrame` is awaited. -/
  | awaiting
  /-- The request is answered or its client is gone. -/
  | finished

/-- A call of `#handle`. -/
structure RequestSession where
  phase : RequestPhase := .resolving
  request : Request
  hostname : String
  /-- The identifiers it draws. -/
  requestId : String
  freshId : String
  relay : Link := .absent
  faults : List Fault := []

namespace RequestSession

/-- The process has ended. -/
def Crashed (session : RequestSession) : Prop := session.faults ≠ []

instance (session : RequestSession) : Decidable session.Crashed :=
  inferInstanceAs (Decidable (_ ≠ _))

def finish (session : RequestSession) : RequestSession := { session with phase := .finished }

/-- `'error'` on the connection: `onceFrame` listens to it while it waits. -/
def relayEmits (session : RequestSession) : RequestSession :=
  if session.relay.heard then { session with relay.heard := false }.finish
  else { session with faults := session.faults ++ [.unheardError] }

def routeResolved (session : RequestSession) (route : Option Json) : RequestSession :=
  match route with
  | some route =>
    if isRoutable (some route) then { session with phase := .deciding route }
    else session.finish
  | none => session.finish

def decided (session : RequestSession) (route : Json) (buckets : RateBuckets) : RequestSession :=
  match config.decision route session.request session.hostname buckets with
  | .ok decision =>
    if decision.allowed then { session with phase := .reading route decision }
    else session.finish
  | .error _ => session.finish

def bodyRead (session : RequestSession) (route : Json) (decision : PolicyResult)
    (body : Except JsError (List UInt8)) : RequestSession :=
  match body with
  | .error _ => session.finish
  | .ok body =>
    match forwardedHeaders config.host config.secure session.request session.hostname
        session.freshId decision with
    | .error _ => session.finish
    | .ok headers => { session with phase := .connecting route decision headers body }

/-- The request is sent; `onceFrame` listens before anything else can happen. -/
def connected (session : RequestSession) (route : Json) (decision : PolicyResult)
    (headers : FrameHeaders) (body : List UInt8) : RequestSession :=
  let session := { session with relay := {} }
  match session.relay.framed.send config.env.codec
      (proxyRequestFrame session.requestId route session.request decision headers body) with
  | .error _ => session.finish
  | .ok effect =>
    { session with phase := .awaiting, relay := { framed := effect.connection, heard := true } }

def onSignal (session : RequestSession) : Signal → RequestSession
  | .frame _ =>
    if session.relay.heard then
      { session with relay := { session.relay with
        heard := false, framed := session.relay.framed.close } }.finish
    else session
  | .malformed => session
  | .invalidLength =>
    let effect := session.relay.framed.destroy
    let session := { session with relay.framed := effect.connection }
    if effect.emitsError then session.relayEmits else session

def onRelayData (session : RequestSession) (chunk : List UInt8) : RequestSession :=
  let read := drain config.env.codec (session.relay.framed.buffer ++ chunk)
  run onSignal { session with relay.framed.buffer := read.2 } read.1

/-- What happens to the connection, whether it is still waited for or not. -/
def onRelay (session : RequestSession) : SocketEvent → RequestSession
  | .relayFailed =>
    if session.relay.framed.destroyed then session
    else { session with relay.framed.destroyed := true }.relayEmits
  | .relayData chunk =>
    if session.relay.framed.destroyed then session else session.onRelayData config chunk
  | .relayEnd =>
    if session.relay.framed.destroyed then session
    else { session with relay.framed.ended := true }
  | .relayClose =>
    if session.relay.gone then session
    else
      let session := { session with relay := { session.relay with
        gone := true, framed.closed := true, framed.destroyed := true } }
      if session.relay.heard then { session with relay.heard := false }.finish else session
  | _ => session

def handle (session : RequestSession) (event : ServerEvent) : RequestSession :=
  match session.phase, event with
  | .resolving, .routeResolved route => session.routeResolved route
  | .deciding route, .decided buckets => session.decided config route buckets
  | .reading route decision, .bodyRead body => session.bodyRead config route decision body
  | .connecting route decision headers body, .socket .relayConnected =>
    session.connected config route decision headers body
  | .connecting _ _ _ _, .socket .relayFailed => session.finish
  | .awaiting, .timeout => { session with relay.heard := false }.finish
  | .awaiting, .socket event | .finished, .socket event => session.onRelay config event
  | _, _ => session

/-- Nothing happens in a process that has ended. -/
def step (session : RequestSession) (event : ServerEvent) : RequestSession :=
  if session.Crashed then session else session.handle config event

/-- A request arrives. The two paths of the Edge's own are answered at once, and so is
a request without a host name. -/
def arrive (request : Request) (requestId freshId : String) : RequestSession :=
  let session : RequestSession := { request, hostname := "", requestId, freshId }
  if request.url ∈ ["/healthz", "/__tunnara/healthz", "/__tunnara/metrics"] then session.finish
  else match normalizeHostname config.host (request.headers.get? "host") with
    | none => session.finish
    | some hostname => { session with hostname }

end RequestSession

inductive UpgradePhase
  | resolving
  | deciding (route : Json)
  | connecting (route : Json) (decision : PolicyResult)
  | running
  /-- The client was refused. -/
  | finished

/-- A call of `#upgrade`. -/
structure UpgradeSession where
  phase : UpgradePhase := .resolving
  request : Request
  httpVersion : String
  /-- What came with the request. -/
  head : List UInt8
  (hostname streamId : String)
  opened : Bool := false
  /-- The timer of ten seconds runs. -/
  timer : Bool := false
  ends : Ends := { relay := .absent }

/-- The answers of `#upgrade` to a client it refuses. -/
def statusLine (status : String) : List UInt8 :=
  utf8 ("HTTP/1.1 " ++ status ++ "\r\nConnection: close\r\n\r\n")

namespace UpgradeSession

/-- The request head and what came with it. -/
def initial (session : UpgradeSession) (decision : PolicyResult) : List UInt8 :=
  requestHead session.request session.httpVersion (decidedPath session.request decision)
    (upgradeHeaders config.host session.request decision) ++ session.head

/-- Answer the client and destroy its socket. -/
def refuse (session : UpgradeSession) (status : String) : UpgradeSession :=
  { session with
    phase := .finished
    ends := (session.ends.writeClient (statusLine status)).destroyClient false }

def routeResolved (session : UpgradeSession) (route : Option Json) : UpgradeSession :=
  match route with
  | some route =>
    if isRoutable (some route) then { session with phase := .deciding route }
    else session.refuse (if truthy (route.get? "tunnel") then "503 Service Unavailable"
      else "404 Not Found")
  | none => session.refuse "404 Not Found"

def decided (session : UpgradeSession) (route : Json) (buckets : RateBuckets) : UpgradeSession :=
  match config.decision route session.request session.hostname buckets with
  | .ok decision =>
    if decision.allowed then { session with phase := .connecting route decision }
    else session.refuse (decision.status.toJsString config.host ++ " Forbidden")
  | .error _ => session.refuse "502 Bad Gateway"

/-- `#upgrade` after the connection to the Relay. -/
def connected (session : UpgradeSession) (route : Json) (decision : PolicyResult) :
    UpgradeSession :=
  let ends := { session.ends with relay := {} }
  match ends.send config.env false
      (upgradeFrame session.streamId route (session.initial config decision)) with
  | .error _ => { session with ends }.refuse "502 Bad Gateway"
  | .ok ends => { session with phase := .running, timer := true, ends := ends.listen }

/-- The `'frame'` listener. What it throws becomes a `'protocolError'`, which nobody hears. -/
def onFrame (session : UpgradeSession) (frame : Json) : UpgradeSession :=
  if frame = .null ∨ frame.get? "streamId" ≠ text session.streamId then session
  else if hasType frame "stream_opened" then { session with opened := true, timer := false }
  else if hasType frame "stream_data" then
    let session := { session with opened := true, timer := false }
    match bufferFrom config.env (frame.get? "dataBase64") with
    | .error _ => session
    | .ok data => { session with ends := session.ends.writeClient data }
  else if hasType frame "stream_close" then
    { session with timer := false, ends := session.ends.endClient.closeRelay }
  else session

def onSignal (session : UpgradeSession) : Signal → UpgradeSession
  | .frame frame => session.onFrame config frame
  | .malformed => session
  | .invalidLength => { session with ends := session.ends.failRelay false }

def onRelayData (session : UpgradeSession) (chunk : List UInt8) : UpgradeSession :=
  let read := drain config.env.codec (session.ends.relay.framed.buffer ++ chunk)
  run (onSignal config) { session with ends.relay.framed.buffer := read.2 } read.1

def onClientData (session : UpgradeSession) (chunk : List UInt8) : UpgradeSession :=
  let ends := { session.ends with client.read := session.ends.client.read ++ [chunk] }
  { session with
    ends := ends.listener (ends.send config.env false (streamDataFrame session.streamId chunk)) }

/-- `relay.send({ type: 'stream_close', … })`. -/
def sendClose (session : UpgradeSession) (reason : String) (ends : Ends) : Except JsError Ends :=
  ends.send config.env false (streamCloseFrame session.streamId reason)

def onClientEnd (session : UpgradeSession) : UpgradeSession :=
  { session with
    ends := session.ends.listener (session.sendClose config "client_end" session.ends) }

def onClientClose (session : UpgradeSession) : UpgradeSession :=
  { session with
    timer := false
    ends := session.ends.listener ((session.sendClose config "client_close" session.ends).map
      Ends.closeRelay) }

/-- The agent did not open the stream in time. -/
def onTimeout (session : UpgradeSession) : UpgradeSession :=
  if session.timer then
    let session := { session with timer := false }
    if session.opened then session
    else { session with ends := ((session.ends.writeClient
      (statusLine "504 Gateway Timeout")).destroyClient false).destroyRelay }
  else session

/-- The listeners of a running upgrade. Its client's socket may stay half open. -/
def handleRunning (session : UpgradeSession) : SocketEvent → UpgradeSession
  | .relayConnected => session
  | .relayFailed => { session with ends := session.ends.relaySocketFails false }
  | .relayData chunk =>
    if session.ends.relay.framed.destroyed then session else session.onRelayData config chunk
  | .relayEnd =>
    if session.ends.relay.framed.destroyed then session
    else { session with ends.relay.framed.ended := true }
  | .relayClose =>
    if session.ends.relay.gone then session
    else { session with ends := session.ends.relayCloses }
  | .clientData chunk =>
    if session.ends.client.destroyed ∨ session.ends.client.finished then session
    else session.onClientData config chunk
  | .clientEnd =>
    if session.ends.client.destroyed ∨ session.ends.client.finished then session
    else { session with ends.client.finished := true }.onClientEnd config
  | .clientClose =>
    if session.ends.client.gone then session
    else { session with ends.client := { session.ends.client with
      gone := true, destroyed := true } }.onClientClose config
  | .clientFailed => { session with ends := session.ends.clientSocketFails }

/-- Frames of a connection that is left behind are not listened to. -/
def onSignalAlone (session : UpgradeSession) : Signal → UpgradeSession
  | .invalidLength => { session with ends := session.ends.failRelay false }
  | _ => session

/-- What can happen to the sockets of an upgrade that does not run. -/
def handleAlone (session : UpgradeSession) : SocketEvent → UpgradeSession
  | .relayFailed => { session with ends := session.ends.relaySocketFails false }
  | .relayData chunk =>
    if session.ends.relay.framed.destroyed then session
    else
      let read := drain config.env.codec (session.ends.relay.framed.buffer ++ chunk)
      run onSignalAlone { session with ends.relay.framed.buffer := read.2 } read.1
  | .relayEnd =>
    if session.ends.relay.framed.destroyed then session
    else { session with ends.relay.framed.ended := true }
  | .relayClose => { session with ends.relay := { session.ends.relay with
      gone := true, framed.closed := true, framed.destroyed := true } }
  | .clientEnd =>
    if session.ends.client.destroyed then session
    else { session with ends.client.finished := true }
  | .clientClose =>
    { session with ends.client := { session.ends.client with gone := true, destroyed := true } }
  | .clientFailed => { session with ends := session.ends.clientSocketFails }
  | _ => session

def handle (session : UpgradeSession) (event : ServerEvent) : UpgradeSession :=
  match session.phase, event with
  | .resolving, .routeResolved route => session.routeResolved route
  | .deciding route, .decided buckets => session.decided config route buckets
  | .connecting route decision, .socket .relayConnected => session.connected config route decision
  | .connecting _ _, .socket .relayFailed => session.refuse "502 Bad Gateway"
  | .running, .socket event => session.handleRunning config event
  | .running, .timeout => session.onTimeout
  | _, .socket event => session.handleAlone config event
  | _, _ => session

/-- Nothing happens in a process that has ended. -/
def step (session : UpgradeSession) (event : ServerEvent) : UpgradeSession :=
  if session.ends.Crashed then session else session.handle config event

def arrive (request : Request) (httpVersion : String) (head : List UInt8) (streamId : String) :
    UpgradeSession :=
  let session : UpgradeSession := { request, httpVersion, head, hostname := "", streamId }
  match normalizeHostname config.host (request.headers.get? "host") with
  | none => session.refuse "404 Not Found"
  | some hostname => { session with hostname }

end UpgradeSession

end Tunnara.Edge
