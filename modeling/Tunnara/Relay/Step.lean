/-
# Events and steps of the Relay

The continuations of the route lookups, the timers, and the events a Relay runs
on. A step either is the handler of its event or, when the event cannot occur,
changes nothing.
-/

import Tunnara.Relay.Handlers

namespace Tunnara.Relay

open State Attempt

variable (env : Env)

namespace State

/-- Enter a proxied request, with its timeout. -/
def addPending (state : State) (requestId : Key) (edge : ℕ) (agentId : String) (via : ℕ) : State :=
  { state with
    timers := state.timers.set state.clock (.proxyRequest requestId)
    pending := state.pending.set requestId { edge, agentId, timer := some state.clock, via }
    activeProxyRequests := state.activeProxyRequests + 1 }.setPendingGauge

def addStream (state : State) (streamId : Key) (edge : ℕ) (agentId : String) (via : ℕ) : State :=
  { state with streams := state.streams.set streamId { edge, agentId, via } }.setStreamsGauge

def addSession (state : State) (sessionId : Key) (edge : ℕ) (agentId : String) (via : ℕ) : State :=
  { state with udpSessions := state.udpSessions.set sessionId { edge, agentId, via } }

def addProbe (state : State) (probeId : Key) (targetId : Option Json) (edge : ℕ)
    (agentId : String) (via : ℕ) : State :=
  { state with
    timers := state.timers.set state.clock (.healthProbe probeId targetId)
    healthProbes := state.healthProbes.set probeId
      { edge, agentId, timer := some state.clock, via } }

end State

/-- `frame.name || uuid()` as a key. -/
def keyOrFresh (lookup : Lookup) (name : String) (state : State) : Key :=
  if truthy (lookup.frame.get? name) then Key.of lookup.identity (lookup.frame.get? name)
  else Key.text (env.uuid state.clock)

/-- Answer the edge and end its connection. -/
def turnAway (edge : ℕ) (answer : Json) : Handler := do
  sendEdge env edge answer
  modify fun state => state.closeEdge edge

/-- What a request handed to an agent says about its target. -/
def targetFields (target : Target) : List (String × Option Json) :=
  [("targetId", target.id), ("targetHost", target.targetHost), ("targetPort", target.targetPort)]

def proxyRequestFrame (frame : Json) (requestId : Key) (target : Target) (tunnel : Tunnel) : Json :=
  overriding frame ([("type", text "proxy_request"), ("requestId", requestId.value)] ++
    targetFields target ++ [("protocol", tunnel.protocol)])

def proxyRequest (lookup : Lookup) (route : Route) : Handler := do
  let state ← get
  let requestId := lookup.frame.get? "requestId"
  match route.tunnel, route.target with
  | none, _ =>
    turnAway env lookup.edge (proxyErrorFrame requestId 404 "Túnel não encontrado.")
  | some _, none =>
    turnAway env lookup.edge
      (proxyErrorFrame requestId 503 "Nenhum target saudável disponível.")
  | some tunnel, some target =>
    if tunnel.status ≠ text "active" then
      turnAway env lookup.edge
        (proxyErrorFrame requestId 503 "Nenhum target saudável disponível.")
    else match state.agents.get? target.agentId with
      | none =>
        turnAway env lookup.edge
          (proxyErrorFrame requestId 503 "Agente do target está offline.")
      | some connection => do
        let requestId := keyOrFresh env lookup "requestId" state
        modify fun state => state.addPending requestId lookup.edge target.agentId connection
        sendAgent env connection (proxyRequestFrame lookup.frame requestId target tunnel)

/-- The agent of a route that is complete and whose agent is connected. -/
def connectedTarget (state : State) (route : Route) : Option (Tunnel × Target × ℕ) := do
  let tunnel ← route.tunnel
  let target ← route.target
  let connection ← state.agents.get? target.agentId
  return (tunnel, target, connection)

theorem connectedTarget_eq_some {state : State} {route : Route} {tunnel : Tunnel} {target : Target}
    {connection : ℕ} (h : connectedTarget state route = some (tunnel, target, connection)) :
    route.tunnel = some tunnel ∧ route.target = some target ∧
      state.agents.get? target.agentId = some connection := by
  simpa [connectedTarget, Option.bind_eq_some_iff] using h

/-- The reason a stream or a datagram is turned away for. -/
def unavailable (route : Route) : String :=
  if route.tunnel.isSome then "target_unavailable" else "tunnel_not_found"

def streamOpenFrame (frame : Json) (target : Target) (tunnel : Tunnel) : Json :=
  overriding frame (targetFields target ++ [("protocol", tunnel.protocol)])

def streamOpen (lookup : Lookup) (route : Route) : Handler := do
  let state ← get
  match connectedTarget state route with
  | none =>
    turnAway env lookup.edge
      (streamCloseFrame (lookup.frame.get? "streamId") (unavailable route))
  | some (tunnel, target, connection) => do
    modify fun state => state.addStream
      (Key.of lookup.identity (lookup.frame.get? "streamId")) lookup.edge target.agentId connection
    sendAgent env connection (streamOpenFrame lookup.frame target tunnel)

def udpDatagramFrame (frame : Json) (sessionId : String) (target : Target) : Json :=
  overriding frame ([("type", text "udp_datagram"), ("sessionId", text sessionId)] ++
    targetFields target ++ [("protocol", text "udp")])

/-- `String(frame.sessionId || uuid())`. -/
def sessionText (lookup : Lookup) (state : State) : Except JsError String :=
  (orDefault (lookup.frame.get? "sessionId") (.str (env.uuid state.clock))).toJsString env.host

def udpDatagram (lookup : Lookup) (route : Route) : Handler := do
  let state ← get
  match (connectedTarget state route).filter fun found => found.1.protocol = text "udp" with
  | none =>
    sendEdge env lookup.edge
      (udpCloseFrame (lookup.frame.get? "sessionId") (unavailable route))
  | some (_, target, connection) =>
    match sessionText env lookup state with
    | .error error => throw error
    | .ok sessionId => do
      modify fun state => state.addSession (Key.text sessionId) lookup.edge target.agentId
        connection
      sendAgent env connection (udpDatagramFrame lookup.frame sessionId target)

/-- `Number(frame.timeoutMs || 5000)`. -/
def probeTimeout (lookup : Lookup) : Except JsError JsNumber :=
  (orDefault (lookup.frame.get? "timeoutMs") (.num 5000)).toNumber env.host

/-- A number in a frame: `JSON.stringify` writes `null` for what is not finite. -/
def numberField : JsNumber → Option Json
  | .fin q => some (.num q)
  | _ => some .null

def healthProbeFrame (frame : Json) (probeId : Key) (target : Target) (timeoutMs : JsNumber) :
    Json :=
  frameOf ([("type", text "health_probe"), ("probeId", probeId.value),
    ("tunnelId", frame.get? "tunnelId")] ++ targetFields target ++
    [("healthCheck", some (orDefault target.healthCheck (.obj []))),
      ("timeoutMs", numberField timeoutMs)])

/-- A probe needs no tunnel, only a target whose agent is connected. -/
def healthProbe (lookup : Lookup) (route : Route) : Handler := do
  let state ← get
  match route.target.bind fun target =>
      (state.agents.get? target.agentId).map fun connection => (target, connection) with
  | none =>
    turnAway env lookup.edge (probeFailedFrame (lookup.frame.get? "probeId")
      (lookup.frame.get? "targetId") "target_unavailable")
  | some (target, connection) =>
    match probeTimeout env lookup with
    | .error error => throw error
    | .ok timeout => do
      let probeId := keyOrFresh env lookup "probeId" state
      modify fun state => state.addProbe probeId target.id lookup.edge target.agentId connection
      sendAgent env connection
        (healthProbeFrame lookup.frame probeId target (timeout.max 250))

/-- A handler of an edge frame after its route arrived. -/
def onRoute (lookup : Lookup) (route : Route) : Handler :=
  match lookup.kind with
  | .proxyRequest => proxyRequest env lookup route
  | .streamOpen => streamOpen env lookup route
  | .udpDatagram => udpDatagram env lookup route
  | .healthProbe => healthProbe env lookup route

def onTimer (timer : Timer) : Handler := do
  let state ← get
  match timer with
  | .proxyRequest requestId =>
    match state.pending.get? requestId with
    | none => pure ()
    | some entry => do
      sendEdge env entry.edge
        (proxyErrorFrame requestId.value 504 "Tempo limite do upstream.")
      modify fun state => ((state.closeEdge entry.edge).dropPending requestId).setPendingGauge
  | .healthProbe probeId targetId =>
    match state.healthProbes.get? probeId with
    | none => pure ()
    | some entry => do
      sendEdge env entry.edge (probeFailedFrame probeId.value targetId "timeout")
      modify fun state => (state.closeEdge entry.edge).dropProbe probeId

/-- `clearTimeout(authTimer)`. -/
def State.clearAuthTimer (state : State) (connection : ℕ) : State :=
  state.modifyAgent connection fun agent => { agent with authTimer := false }

def agentSignal (connection : ℕ) (state : State) (signal : Signal) : State :=
  let state := state.tick
  match signal with
  | .invalidLength | .malformed => state.destroyAgent connection
  | .frame value =>
    match state.agentConns.get? connection with
    | none => state
    | some agent =>
      match agent.phase, agent.agentId with
      | .awaitingHello, _ =>
        voidAsync (onHello env connection value) (state.clearAuthTimer connection)
      | .ready, some agentId => voidAsync (onAgentFrame env agentId value) state
      -- no `'frame'` listener is registered
      | _, _ => state

/-- What an edge connection makes of one signal of its framing. -/
def edgeSignal (edge : ℕ) (state : State) (signal : Signal) : State :=
  let state := state.tick
  match signal with
  | .invalidLength | .malformed => state.destroyEdge edge
  | .frame value => frameListener edge (onEdgeFrame env edge value) state

inductive Event
  | agentConnect (connection : ℕ)
  | edgeConnect (edge : ℕ)
  | agentData (connection : ℕ) (chunk : List UInt8)
  | edgeData (edge : ℕ) (chunk : List UInt8)
  /-- The peer ended its side. -/
  | agentEnd (connection : ℕ)
  | edgeEnd (edge : ℕ)
  /-- The socket failed: it is destroyed and emits `'error'`. -/
  | agentError (connection : ℕ)
  | edgeError (edge : ℕ)
  | agentClose (connection : ℕ)
  | edgeClose (edge : ℕ)
  | authTimeout (connection : ℕ)
  | authenticated (connection : ℕ) (result : Except JsError String)
  | presenceSettled (connection : ℕ)
  | routeResolved (lookup : ℕ) (route : Route)
  | heartbeatSettled (heartbeat : ℕ)
  | timerFired (timer : ℕ)

namespace State

/-- The awaited answer has arrived. -/
def forgetLookup (state : State) (id : ℕ) : State :=
  { state with lookups := state.lookups.erase id }

def forgetHeartbeat (state : State) (id : ℕ) : State :=
  { state with heartbeats := state.heartbeats.erase id }

/-- The bytes that are not a complete frame yet. -/
def keepAgentBytes (state : State) (connection : ℕ) (rest : List UInt8) : State :=
  state.modifyAgent connection fun agent => { agent with framed.buffer := rest }

def keepEdgeBytes (state : State) (edge : ℕ) (rest : List UInt8) : State :=
  state.modifyEdge edge fun conn => { conn with framed.buffer := rest }

/-- The socket emitted `'close'`. -/
def endAgent (state : State) (connection : ℕ) : State :=
  state.modifyAgent connection fun agent =>
    { agent with gone := true, authTimer := false, framed.closed := true, framed.destroyed := true }

def endEdge (state : State) (edge : ℕ) : State :=
  state.modifyEdge edge fun conn =>
    { conn with gone := true, framed.closed := true, framed.destroyed := true }

end State

/-- Run a step on an agent connection that meets the condition. -/
def withAgent (state : State) (connection : ℕ) (enabled : AgentConnection → Bool)
    (f : AgentConnection → State) : State :=
  match state.agentConns.get? connection with
  | none => state
  | some agent => if enabled agent then f agent else state

def withEdge (state : State) (edge : ℕ) (enabled : EdgeConnection → Bool)
    (f : EdgeConnection → State) : State :=
  match state.edgeConns.get? edge with
  | none => state
  | some conn => if enabled conn then f conn else state

/-- The handler of an event in a process that runs. -/
def handle (state : State) : Event → State
  | .agentConnect connection =>
    if (state.agentConns.get? connection).isSome then state else state.putAgent connection {}
  | .edgeConnect edge =>
    if (state.edgeConns.get? edge).isSome then state else state.putEdge edge {}
  | .agentData connection chunk =>
    withAgent state connection (fun agent => !agent.framed.destroyed) fun agent =>
      let read := drain env.codec (agent.framed.buffer ++ chunk)
      Transition.run (agentSignal env connection) (state.keepAgentBytes connection read.2) read.1
  | .edgeData edge chunk =>
    withEdge state edge (fun conn => !conn.framed.destroyed) fun conn =>
      let read := drain env.codec (conn.framed.buffer ++ chunk)
      Transition.run (edgeSignal env edge) (state.keepEdgeBytes edge read.2) read.1
  | .agentEnd connection =>
    withAgent state connection (fun agent => !agent.framed.destroyed) fun _ =>
      state.modifyAgent connection fun agent => { agent with framed.ended := true }
  | .edgeEnd edge =>
    withEdge state edge (fun conn => !conn.framed.destroyed) fun _ =>
      state.modifyEdge edge fun conn => { conn with framed.ended := true }
  | .agentError connection =>
    withAgent state connection (fun agent => !agent.framed.destroyed) fun _ =>
      state.modifyAgent connection fun agent => { agent with framed.destroyed := true }
  | .edgeError edge =>
    withEdge state edge (fun conn => !conn.framed.destroyed) fun conn =>
      state.edgeEffect edge conn
        { connection := { conn.framed with destroyed := true }, emitsError := true }
  | .agentClose connection =>
    withAgent state connection (fun agent => !agent.gone) fun agent =>
      callback (onAgentClose env connection agent.agentId)
        (state.endAgent connection)
  | .edgeClose edge =>
    withEdge state edge (fun conn => !conn.gone) fun conn =>
      callback (onEdgeClose env conn.streamId)
        (state.endEdge edge)
  | .authTimeout connection =>
    withAgent state connection (fun agent => agent.authTimer) fun _ =>
      (state.clearAuthTimer connection).destroyAgent connection
  | .authenticated connection result =>
    withAgent state connection (fun agent => agent.phase = .authenticating) fun _ =>
      voidAsync (onAuthenticated env connection result) state
  | .presenceSettled connection =>
    withAgent state connection (fun agent => agent.phase = .announcing) fun agent =>
      match agent.agentId with
      | none => state
      | some agentId => voidAsync (onPresence env connection agentId) state
  | .routeResolved id route =>
    match state.lookups.get? id with
    | none => state
    | some lookup =>
      voidAsync (onRoute env lookup route) (state.forgetLookup id)
  | .heartbeatSettled id =>
    match state.heartbeats.get? id with
    | none => state
    | some agentId =>
      voidAsync (onHeartbeatSettled env agentId)
        (state.forgetHeartbeat id)
  | .timerFired id =>
    match state.timers.get? id with
    | none => state
    | some timer =>
      callback (onTimer env timer) (state.clearTimeout (some id))

/-- Nothing happens in a process that has ended. -/
def step (state : State) (event : Event) : State :=
  if state.Crashed then state else handle env state.tick event

theorem step_routeResolved {state : State} {id : ℕ} {lookup : Lookup}
    (hrunning : ¬ state.Crashed) (hlookup : state.lookups.get? id = some lookup) (route : Route) :
    step env state (.routeResolved id route) =
      voidAsync (onRoute env lookup route) (state.tick.forgetLookup id) := by
  have hfound : state.tick.lookups.get? id = some lookup := hlookup
  rw [step, if_neg hrunning, handle, hfound]

/-- The Relay after `start`. -/
def initial : State := {}

end Tunnara.Relay
