/-
# The handlers of the Relay

`RelayServer` from `#acceptAgent` to `#healthProbe`. A listener, a timer or the continuation of an
`await` runs to its end or to its throw before anything else happens, so each is one event. An
event that cannot occur in a state leaves it as it is. What a route lookup, an authentication or a
timer answers, and when, is part of the event. `stop()` and the log are left out.
-/

import Tunnara.Relay.State

namespace Tunnara.Relay

open State Attempt

def helloOkFrame (agentId : String) : Json :=
  frameOf [("type", text "agent_hello_ok"), ("agentId", text agentId),
    ("heartbeatIntervalSeconds", some (.num 20))]

def errorFrame (error : JsError) : Json :=
  frameOf [("type", text "error"),
    ("code", match error.code with
      | some code => if code = "" then text "AGENT_AUTH_FAILED" else text code
      | none => text "AGENT_AUTH_FAILED"),
    ("message", text error.message)]

def heartbeatAckFrame (at' : String) : Json :=
  frameOf [("type", text "heartbeat_ack"), ("at", text at')]

def proxyErrorFrame (requestId : Option Json) (status : ℕ) (message : String) : Json :=
  frameOf [("type", text "proxy_error"), ("requestId", requestId),
    ("status", some (.num status)), ("message", text message)]

def streamCloseFrame (streamId : Option Json) (reason : String) : Json :=
  frameOf [("type", text "stream_close"), ("streamId", streamId), ("reason", text reason)]

def udpCloseFrame (sessionId : Option Json) (reason : String) : Json :=
  frameOf [("type", text "udp_close"), ("sessionId", sessionId), ("reason", text reason)]

def probeFailedFrame (probeId targetId : Option Json) (error : String) : Json :=
  frameOf [("type", text "health_probe_response"), ("probeId", probeId), ("targetId", targetId),
    ("healthy", some (.bool false)), ("error", text error)]

structure Tunnel where
  (status protocol : Option Json)

structure Target where
  id : Option Json
  agentId : String
  (targetHost targetPort healthCheck : Option Json)

/-- What `#getRoute` answers; a failed lookup has neither part. -/
structure Route where
  tunnel : Option Tunnel := none
  target : Option Target := none

variable (env : Env)

/-- `void handler()` of an async function. -/
def voidAsync (handler : Handler) (state : State) : State :=
  match exec handler state with
  | (.ok _, next) => next
  | (.error error, next) => next.raise (.unhandledRejection error)

/-- A timer or a listener of a socket event. -/
def callback (handler : Handler) (state : State) : State :=
  match exec handler state with
  | (.ok _, next) => next
  | (.error error, next) => next.raise (.uncaughtException error)

/-- The `'frame'` listener of an edge, called inside the `try` of `#onData`: a throw
becomes a `'protocolError'`, whose listener destroys the connection. -/
def frameListener (edge : ℕ) (handler : Handler) (state : State) : State :=
  match exec handler state with
  | (.ok _, next) => next
  | (.error _, next) => next.destroyEdge edge

variable {handler : Handler} {state : State}

section

variable {inv : State → Prop} (hraise : ∀ state fault, inv state → inv (state.raise fault))
include hraise

theorem keeps_voidAsync {guard : State → Prop} (h : Keeps inv guard handler) (hinv : inv state)
    (hguard : guard state) : inv (voidAsync handler state) := by
  have hafter := h state hinv hguard
  unfold voidAsync
  split
  · rename_i hexec
    rwa [hexec] at hafter
  · rename_i hexec
    rw [hexec] at hafter
    exact hraise _ _ hafter

theorem keeps_callback {guard : State → Prop} (h : Keeps inv guard handler) (hinv : inv state)
    (hguard : guard state) : inv (callback handler state) := by
  have hafter := h state hinv hguard
  unfold callback
  split
  · rename_i hexec
    rwa [hexec] at hafter
  · rename_i hexec
    rw [hexec] at hafter
    exact hraise _ _ hafter

end

theorem settled_voidAsync {goal : State → Prop} (hsettles : Settles goal handler)
    (halive : ¬ (voidAsync handler state).Crashed) : goal (voidAsync handler state) := by
  have hexec := hsettles state
  unfold voidAsync at halive ⊢
  split at halive
  · rename_i heq
    rw [heq] at hexec
    exact hexec.resolve_right fun h => by simp at h
  · exact absurd crashed_raise halive

theorem settled_callback {goal : State → Prop} (hsettles : Settles goal handler)
    (halive : ¬ (callback handler state).Crashed) : goal (callback handler state) := by
  have hexec := hsettles state
  unfold callback at halive ⊢
  split at halive
  · rename_i heq
    rw [heq] at hexec
    exact hexec.resolve_right fun h => by simp at h
  · exact absurd crashed_raise halive

namespace State

def setPhase (state : State) (connection : ℕ) (phase : Phase) : State :=
  state.modifyAgent connection fun agent => { agent with phase }

/-- `#presence` asks for an update. -/
def askPresence (state : State) (agentId : String) (status : Presence) : State :=
  { state with presence := state.presence ++ [(agentId, status)] }

/-- The connection becomes the agent's current one; an older one is destroyed. -/
def register (state : State) (connection : ℕ) (agentId : String) : State :=
  let state := state.modifyAgent connection fun agent =>
    { agent with agentId := some agentId, phase := .announcing }
  let state := match state.agents.get? agentId with
    | none => state
    | some old => state.destroyAgent old
  ({ state with agents := state.agents.set agentId connection }.setAgentsGauge).askPresence
    agentId .online

/-- `void this.#presence(agentId, 'offline')`. -/
def goOffline (state : State) (agentId : String) : State :=
  let state := state.askPresence agentId .offline
  match env.presenceError state.clock with
  | none => state
  | some error => state.raise (.unhandledRejection error)

end State

/-- The `catch` of the handshake. -/
def refuse (connection : ℕ) (error : JsError) : Handler := do
  modify fun state => state.setPhase connection .refused
  sendAgent env connection (errorFrame error)
  modify fun state => state.closeAgent connection

/-- What the handshake throws on its first frame, if it is not an `agent_hello`. -/
def helloError (hello : Json) : Option JsError :=
  match hello with
  | .null => some (typeError "Cannot read properties of null (reading 'type')")
  | hello =>
    if hasType hello "agent_hello" then none
    else some
      { message := "Handshake de agente inválido.", code := some "AGENT_HANDSHAKE_INVALID" }

/-- The handshake up to the call of `#authenticateHello`. -/
def onHello (connection : ℕ) (hello : Json) : Handler :=
  match helloError hello with
  | some error => refuse env connection error
  | none => modify fun state => state.setPhase connection .authenticating

/-- The handshake after `#authenticateHello`. -/
def onAuthenticated (connection : ℕ) (result : Except JsError String) : Handler :=
  match result with
  | .error error => refuse env connection error
  | .ok agentId => modify fun state => state.register connection agentId

/-- The handshake after `#presence`. -/
def onPresence (connection : ℕ) (agentId : String) : Handler := do
  let state ← get
  match env.presenceError state.clock with
  | some error => refuse env connection error
  | none =>
    try
      sendAgent env connection (helloOkFrame agentId)
      modify fun state => state.setPhase connection .ready
    catch error => refuse env connection error

/-- Fail one pending request of a disconnected agent. -/
def failPending (agentId : String) (item : Key × Entry) : Handler :=
  if item.2.agentId = agentId then do
    sendEdge env item.2.edge (proxyErrorFrame item.1.value 502 "Agente desconectado.")
    modify fun state => ((state.closeEdge item.2.edge).clearTimeout item.2.timer).dropPending item.1
  else pure ()

def failStream (agentId : String) (item : Key × Entry) : Handler :=
  if item.2.agentId = agentId then do
    sendEdge env item.2.edge (streamCloseFrame item.1.value "agent_disconnected")
    modify fun state => (state.closeEdge item.2.edge).dropStream item.1
  else pure ()

def failSession (agentId : String) (item : Key × Entry) : Handler :=
  if item.2.agentId = agentId then do
    sendEdge env item.2.edge (udpCloseFrame item.1.value "agent_disconnected")
    modify fun state => state.dropSession item.1
  else pure ()

/-- Leave `agents` if the closed connection is still the current one. -/
def State.leave (state : State) (connection : ℕ) (agentId : String) : State :=
  if state.agents.get? agentId = some connection then
    ({ state with agents := state.agents.erase agentId }.setAgentsGauge).goOffline env agentId
  else state

/-- The `'close'` listener of an agent connection. -/
def onAgentClose (connection : ℕ) (agentId : Option String) : Handler :=
  match agentId with
  | none => pure ()
  | some agentId => do
    modify fun state => state.leave env connection agentId
    let state ← get
    state.pending.entries.forM (failPending env agentId)
    state.streams.entries.forM (failStream env agentId)
    state.udpSessions.entries.forM (failSession env agentId)

def onHeartbeat (agentId : String) : Handler := do
  let state ← get
  if env.distributed then
    modify fun state => { state with heartbeats := state.heartbeats.set state.clock agentId }
  else match env.store state.clock with
    | some error => throw error
    | none => sendToAgent env agentId (heartbeatAckFrame (env.timestamp state.clock))

/-- The heartbeat after `agentHeartbeat`, whose failure is only logged. -/
def onHeartbeatSettled (agentId : String) : Handler := do
  let state ← get
  sendToAgent env agentId (heartbeatAckFrame (env.timestamp state.clock))

def onProbeResponse (agentId : String) (frame : Json) : Handler := do
  let state ← get
  let probeId := Key.of state.clock (frame.get? "probeId")
  match state.healthProbes.get? probeId with
  | none => pure ()
  | some entry =>
    if entry.agentId ≠ agentId then pure ()
    else do
      modify fun state => state.clearTimeout entry.timer
      sendEdge env entry.edge frame
      modify fun state => (state.closeEdge entry.edge).dropProbe probeId

def onProxyResponse (agentId : String) (frame : Json) : Handler := do
  let state ← get
  let requestId := Key.of state.clock (frame.get? "requestId")
  match state.pending.get? requestId with
  | none => pure ()
  | some entry =>
    if entry.agentId ≠ agentId then pure ()
    else do
      modify fun state => state.clearTimeout entry.timer
      sendEdge env entry.edge frame
      modify fun state => ((state.closeEdge entry.edge).dropPending requestId).setPendingGauge

def onStreamReply (agentId : String) (frame : Json) : Handler := do
  let state ← get
  let streamId := Key.of state.clock (frame.get? "streamId")
  match state.streams.get? streamId with
  | none => pure ()
  | some entry =>
    if entry.agentId ≠ agentId then pure ()
    else do
      sendEdge env entry.edge frame
      modify fun state =>
        if hasType frame "stream_close" then
          ((state.closeEdge entry.edge).dropStream streamId).setStreamsGauge
        else state

def onUdpReply (agentId : String) (frame : Json) : Handler := do
  let state ← get
  let sessionId := Key.of state.clock (frame.get? "sessionId")
  match state.udpSessions.get? sessionId with
  | none => pure ()
  | some entry =>
    if entry.agentId ≠ agentId then pure ()
    else do
      sendEdge env entry.edge frame
      modify fun state => if hasType frame "udp_close" then state.dropSession sessionId else state

/-- `#onAgentFrame` on a frame whose `type` can be read. -/
def dispatchAgentFrame (agentId : String) (frame : Json) : Handler :=
  if hasType frame "heartbeat" then onHeartbeat env agentId
  else if hasType frame "health_probe_response" then onProbeResponse env agentId frame
  else if hasType frame "proxy_response" || hasType frame "proxy_error" then
    onProxyResponse env agentId frame
  else if hasType frame "stream_opened" || hasType frame "stream_data" ||
      hasType frame "stream_close" then
    onStreamReply env agentId frame
  else if hasType frame "udp_response" || hasType frame "udp_close" then
    onUdpReply env agentId frame
  else pure ()

def onAgentFrame (agentId : String) (frame : Json) : Handler :=
  match frame with
  | .null => throw (typeError "Cannot read properties of null (reading 'type')")
  | frame => dispatchAgentFrame env agentId frame

theorem onAgentFrame_of_ne_null {frame : Json} (h : frame ≠ .null) (agentId : String) :
    onAgentFrame env agentId frame = dispatchAgentFrame env agentId frame := by
  cases frame with
  | null => exact absurd rfl h
  | _ => rfl

namespace State

/-- The variable `streamId` in the closure of an edge connection. -/
def streamIdOf (state : State) (edge : ℕ) : Key :=
  match state.edgeConns.get? edge with
  | none => ⟨some .null, none⟩
  | some conn => conn.streamId

def setStreamId (state : State) (edge : ℕ) (streamId : Key) : State :=
  state.modifyEdge edge fun conn => { conn with streamId }

/-- An async handler runs up to the call of `#getRoute`. -/
def awaitRoute (state : State) (kind : LookupKind) (edge : ℕ) (frame : Json) : State :=
  { state with
    lookups := state.lookups.set state.clock { kind, edge, frame, identity := state.clock } }

end State

/-- Send a frame to the agent of an entry, if there is one. -/
def forward (entry : Option Entry) (payload : Json) : Handler :=
  match entry with
  | none => pure ()
  | some entry => sendToAgent env entry.agentId payload

def onEdgeUdpClose (frame : Json) : Handler := do
  let state ← get
  let sessionId := Key.of state.clock (frame.get? "sessionId")
  forward env (state.udpSessions.get? sessionId) frame
  modify fun state => state.dropSession sessionId

def onEdgeStream (streamId : Key) (frame : Json) : Handler := do
  let state ← get
  forward env (state.streams.get? streamId) frame
  modify fun state => if hasType frame "stream_close" then state.dropStream streamId else state

/-- The `'frame'` listener of an edge connection on a frame whose `type` can be read. -/
def dispatchEdgeFrame (edge : ℕ) (frame : Json) : Handler := do
  let state ← get
  if hasType frame "proxy_request" then
    modify fun state => state.awaitRoute .proxyRequest edge frame
  else if hasType frame "stream_open" then
    modify fun state => (state.setStreamId edge
      (Key.of state.clock (frame.get? "streamId"))).awaitRoute .streamOpen edge frame
  else if hasType frame "udp_datagram" then
    modify fun state => state.awaitRoute .udpDatagram edge frame
  else if hasType frame "health_probe" then
    modify fun state => state.awaitRoute .healthProbe edge frame
  else if hasType frame "udp_close" then onEdgeUdpClose env frame
  else if (hasType frame "stream_data" || hasType frame "stream_close") &&
      truthy (state.streamIdOf edge).value then
    onEdgeStream env (state.streamIdOf edge) frame
  else pure ()

def onEdgeFrame (edge : ℕ) (frame : Json) : Handler :=
  match frame with
  | .null => throw (typeError "Cannot read properties of null (reading 'type')")
  | frame => dispatchEdgeFrame env edge frame

theorem onEdgeFrame_of_ne_null {frame : Json} (h : frame ≠ .null) (edge : ℕ) :
    onEdgeFrame env edge frame = dispatchEdgeFrame env edge frame := by
  cases frame with
  | null => exact absurd rfl h
  | _ => rfl

/-- The `'close'` listener of an edge connection. -/
def onEdgeClose (streamId : Key) : Handler :=
  if truthy streamId.value then do
    let state ← get
    forward env (state.streams.get? streamId) (streamCloseFrame streamId.value "edge_closed")
    modify fun state => state.dropStream streamId
  else pure ()

end Tunnara.Relay
