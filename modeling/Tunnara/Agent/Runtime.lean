/-
# An agent over many connections

`AgentRuntime.run` connects to a Relay again and again. A socket that is opened for a stream or a
UDP session keeps the connection whose frame it was opened for. The maps that list these sockets
and the heartbeat interval belong to the runtime: `stop` clears them, and after a connection that
closes, but not after one that fails, the interval is cleared. Requests and health probes, which
leave nothing in the maps, are not followed here.
-/

import Tunnara.Edge.Sockets
import Tunnara.Relay.State

namespace Tunnara.Agent

open Relay Edge Transition

/-- What the runtime works with. -/
structure RuntimeEnv extends Edge.Env where
  host : Host
  allowRemoteTargets : Bool
  /-- There is a private key, and it signs the proof. -/
  signs : Bool
  (hello heartbeat : ℕ → Json)
  /-- What `net.connect` throws for the target of a frame. -/
  connectError : Json → Option JsError
  /-- What `send` of a datagram throws for the target of the frame that opened the session. -/
  sendError : Json → Option JsError

/-- `!isLoopbackHost(frame.targetHost) && !this.options.allowRemoteTargets`, negated. -/
def RuntimeEnv.allows (env : RuntimeEnv) (frame : Json) : Except JsError Bool := do
  let value ← match frame.get? "targetHost" with
    | none => .ok "undefined"
    | some value => value.toJsString env.host
  let host := env.host.toLowerCase value
  return host = "127.0.0.1" || host = "localhost" || host = "::1" || env.allowRemoteTargets

/-- The socket of `#streamOpen`. -/
structure StreamSocket where
  /-- The connection its listeners send on. -/
  connection : ℕ
  /-- The frame it was opened by. -/
  opening : Json
  key : Key
  connected : Bool := false
  /-- The local service has ended its side. -/
  finished : Bool := false
  destroyed : Bool := false
  /-- `'close'` was emitted. -/
  gone : Bool := false

inductive StreamEvent
  | connected
  | data (chunk : List UInt8)
  | ended
  | failed (message : String)
  | closed

namespace StreamSocket

variable (socket : StreamSocket)

def streamId : Option Json := socket.opening.get? "streamId"

def closeFrame (reason : String) : Json :=
  frameOf [("type", text "stream_close"), ("streamId", socket.streamId), ("reason", text reason)]

def enabled : StreamEvent → Bool
  | .connected => !socket.destroyed && !socket.connected
  | .data _ | .ended => !socket.destroyed && socket.connected && !socket.finished
  | .failed _ => !socket.destroyed
  | .closed => !socket.gone

/-- What the listener sends. -/
def answer : StreamEvent → Option Json
  | .connected => some (frameOf [("type", text "stream_opened"), ("streamId", socket.streamId)])
  | .data chunk => some (frameOf [("type", text "stream_data"), ("streamId", socket.streamId),
      ("dataBase64", text (Base64.encode chunk))])
  | .ended => some (socket.closeFrame "upstream_end")
  | .failed message => some (socket.closeFrame message)
  | .closed => none

def after : StreamEvent → StreamSocket
  | .connected => { socket with connected := true }
  | .data _ => socket
  | .ended => { socket with finished := true }
  | .failed _ => { socket with destroyed := true }
  | .closed => { socket with destroyed := true, gone := true }

end StreamSocket

/-- The listener deletes the entry of the stream. -/
def StreamEvent.unlists : StreamEvent → Bool
  | .failed _ | .closed => true
  | _ => false

/-- The listener writes what came with the opening frame. -/
def StreamEvent.opens : StreamEvent → Bool
  | .connected => true
  | _ => false

structure SessionSocket where
  connection : ℕ
  opening : Json
  key : Key
  closed : Bool := false
  gone : Bool := false

inductive SessionEvent
  | message (data : List UInt8)
  | failed (message : String)
  | closed

namespace SessionSocket

variable (socket : SessionSocket)

def sessionId : Option Json := socket.opening.get? "sessionId"

def enabled : SessionEvent → Bool
  | .message _ | .failed _ => !socket.closed
  | .closed => socket.closed && !socket.gone

def answer : SessionEvent → Option Json
  | .message data => some (frameOf [("type", text "udp_response"), ("sessionId", socket.sessionId),
      ("dataBase64", text (Base64.encode data))])
  | .failed message => some (frameOf [("type", text "udp_close"), ("sessionId", socket.sessionId),
      ("reason", text message)])
  | .closed => none

def after : SessionEvent → SessionSocket
  | .message _ => socket
  | .failed _ => { socket with closed := true }
  | .closed => { socket with gone := true }

end SessionSocket

def SessionEvent.unlists : SessionEvent → Bool
  | .message _ => false
  | .failed _ | .closed => true

/-- Where `run` and `#runConnection` are. -/
inductive RunPhase
  /-- `openRelay` is awaited. -/
  | connecting
  | handshake (connection : ℕ)
  | serving (connection : ℕ)
  /-- The delay before the next attempt. -/
  | delayed
  | returned
  deriving DecidableEq

structure Runtime where
  phase : RunPhase := .connecting
  connection : Option ℕ := none
  links : OrdMap ℕ Link := .empty
  streams : OrdMap Key ℕ := .empty
  udpSessions : OrdMap Key ℕ := .empty
  streamSockets : OrdMap ℕ StreamSocket := .empty
  sessionSockets : OrdMap ℕ SessionSocket := .empty
  heartbeatTimer : Option ℕ := none
  /-- The intervals that are set and not cleared; each is named by its connection. -/
  intervals : List ℕ := []
  stopping : Bool := false
  /-- An exception or a rejected promise has ended the process. -/
  crashed : Bool := false
  /-- Names what an event creates. -/
  clock : ℕ := 0

namespace Runtime

/-- The `catch` block of `run`. -/
def fail (m : Runtime) : Runtime :=
  { m with phase := if m.stopping then .returned else .delayed }

def crash (m : Runtime) : Runtime := { m with crashed := true }

/-- `'error'` of a connection: its listeners hear it once. -/
def emitError (connection : ℕ) (m : Runtime) : Runtime :=
  match m.links.get? connection with
  | none => m
  | some link =>
    if link.heard then
      let heard := { m with links := m.links.set connection { link with heard := false } }
      if m.phase = .handshake connection ∨ m.phase = .serving connection then heard.fail
      else heard
    else m.crash

variable (env : RuntimeEnv)

/-- `connection.send(payload)` where nothing catches what it throws. -/
def send (connection : ℕ) (payload : Json) (m : Runtime) : Runtime :=
  match m.links.get? connection with
  | none => m
  | some link =>
    match link.framed.send env.codec payload with
    | .error _ => m.crash
    | .ok effect =>
      let sent := { m with
        links := m.links.set connection { link with framed := effect.connection } }
      if effect.emitsError then sent.emitError connection else sent

/-- `#runConnection` once the socket is connected, up to the wait for the first frame. -/
def connected (m : Runtime) : Runtime :=
  let created := { m with
    connection := some m.clock, links := m.links.set m.clock { heard := false } }
  if env.signs then
    match ({} : FramedConnection).send env.codec (env.hello m.clock) with
    | .error _ => created.fail
    | .ok effect => { created with
        phase := .handshake m.clock
        links := m.links.set m.clock { framed := effect.connection, heard := true } }
  else created.fail

/-- The first frame accepts the agent. -/
def greeted (connection : ℕ) (m : Runtime) : Runtime :=
  { m with
    phase := .serving connection
    heartbeatTimer := some connection
    intervals := m.intervals ++ [connection] }

/-- `clearInterval(this.heartbeatTimer)`. -/
def clearHeartbeat (m : Runtime) : Runtime :=
  { m with intervals := m.intervals.filter fun interval => some interval ≠ m.heartbeatTimer }

/-- What follows the wait of `#runConnection` when the connection has closed. -/
def finished (m : Runtime) : Runtime :=
  { m.clearHeartbeat with
    connection := none
    phase := if m.stopping then .returned else .connecting }

def streamOpen (connection : ℕ) (frame : Json) (m : Runtime) : Runtime :=
  match env.allows frame with
  | .error _ => m.crash
  | .ok false =>
    m.send env connection (frameOf [("type", text "stream_close"),
      ("streamId", frame.get? "streamId"), ("reason", text "target_not_allowed")])
  | .ok true =>
    match env.connectError frame with
    | some _ => m.crash
    | none =>
      let key := Key.of m.clock (frame.get? "streamId")
      { m with
        streamSockets := m.streamSockets.set m.clock
          { connection, opening := frame, key }
        streams := m.streams.set key m.clock }

/-- A datagram of `frame` for a session that `opening` opened; its socket is not closed. -/
def sendDatagram (opening frame : Json) (m : Runtime) : Runtime :=
  match bufferFrom env.toEnv (frame.get? "dataBase64") with
  | .error _ => m.crash
  | .ok _ => if (env.sendError opening).isSome then m.crash else m

def udpDatagram (connection : ℕ) (frame : Json) (m : Runtime) : Runtime :=
  match env.allows frame with
  | .error _ => m.crash
  | .ok false =>
    m.send env connection (frameOf [("type", text "udp_close"),
      ("sessionId", frame.get? "sessionId"), ("reason", text "target_not_allowed")])
  | .ok true =>
    let key := Key.of m.clock (frame.get? "sessionId")
    match (m.udpSessions.get? key).bind m.sessionSockets.get? with
    | some session => m.sendDatagram env session.opening frame
    | none =>
      sendDatagram env frame frame { m with
        sessionSockets := m.sessionSockets.set m.clock { connection, opening := frame, key }
        udpSessions := m.udpSessions.set key m.clock }

def closeSession (m : Runtime) (key : Key) : Runtime :=
  match m.udpSessions.get? key with
  | none => m
  | some socket => { m with
      sessionSockets := m.sessionSockets.update socket fun socket => { socket with closed := true }
      udpSessions := m.udpSessions.erase key }

def onFrame (connection : ℕ) (frame : Json) (m : Runtime) : Runtime :=
  if frame = .null then m.crash
  else if hasType frame "stream_open" then m.streamOpen env connection frame
  else if hasType frame "stream_data" then
    match m.streams.get? (Key.of m.clock (frame.get? "streamId")),
        bufferFrom env.toEnv (frame.get? "dataBase64") with
    | some _, .error _ => m.crash
    | _, _ => m
  else if hasType frame "stream_close" then
    { m with streams := m.streams.erase (Key.of m.clock (frame.get? "streamId")) }
  else if hasType frame "udp_datagram" then m.udpDatagram env connection frame
  else if hasType frame "udp_close" then
    m.closeSession (Key.of m.clock (frame.get? "sessionId"))
  else m

/-- The stream is open: `initialDataBase64` is written to its socket. -/
def writeInitial (socket : StreamSocket) (m : Runtime) : Runtime :=
  match bufferFrom env.toEnv (socket.opening.get? "initialDataBase64") with
  | .error _ => m.crash
  | .ok _ => m

/-- What a listener sends, if anything. -/
def answered (connection : ℕ) (frame? : Option Json) (m : Runtime) : Runtime :=
  match frame? with
  | none => m
  | some frame => m.send env connection frame

/-- What follows in the listener of a stream's socket. -/
def afterStream (name : ℕ) (socket : StreamSocket) (event : StreamEvent) (m : Runtime) :
    Runtime :=
  let changed := { m with
    streamSockets := m.streamSockets.set name (socket.after event)
    streams := if event.unlists then m.streams.erase socket.key else m.streams }
  if event.opens then changed.writeInitial env socket else changed

def afterSession (name : ℕ) (socket : SessionSocket) (event : SessionEvent) (m : Runtime) :
    Runtime :=
  { m with
    sessionSockets := m.sessionSockets.set name (socket.after event)
    udpSessions := if event.unlists then m.udpSessions.erase socket.key else m.udpSessions }

def onStream (name : ℕ) (event : StreamEvent) (m : Runtime) : Runtime :=
  match m.streamSockets.get? name with
  | none => m
  | some socket =>
    if socket.enabled event then
      let answered := m.answered env socket.connection (socket.answer event)
      if answered.crashed then answered else answered.afterStream env name socket event
    else m

def onSession (name : ℕ) (event : SessionEvent) (m : Runtime) : Runtime :=
  match m.sessionSockets.get? name with
  | none => m
  | some socket =>
    if socket.enabled event then
      let answered := m.answered env socket.connection (socket.answer event)
      if answered.crashed then answered else answered.afterSession name socket event
    else m

def stop (m : Runtime) : Runtime :=
  { m.clearHeartbeat with
    stopping := true
    phase := if m.phase = .delayed then .returned else m.phase
    links := match m.connection with
      | none => m.links
      | some connection => m.links.update connection fun link =>
        { link with framed := link.framed.destroy.connection }
    streamSockets := m.streamSockets.mapVals fun name socket =>
      if m.streams.entries.any fun e => e.2 = name then { socket with destroyed := true }
      else socket
    sessionSockets := m.sessionSockets.mapVals fun name socket =>
      if m.udpSessions.entries.any fun e => e.2 = name then { socket with closed := true }
      else socket
    streams := .empty
    udpSessions := .empty }

inductive Event
  | connected
  /-- The bridge or the Relay cannot be reached. -/
  | unreachable
  | greeted
  /-- The first frame refuses the agent, or the handshake takes too long. -/
  | refused
  /-- The Relay has ended its side. -/
  | relayEnded (connection : ℕ)
  | relayFailed (connection : ℕ)
  | relayClosed (connection : ℕ)
  | frame (frame : Json)
  | beat (interval : ℕ)
  | retry
  | stream (name : ℕ) (event : StreamEvent)
  | session (name : ℕ) (event : SessionEvent)
  | stop

/-- The connection still hands out what the Relay sends. -/
def readable (m : Runtime) (connection : ℕ) : Bool :=
  (m.links.get? connection).any fun link => !link.framed.silent && !link.framed.ended

/-- An event that cannot occur changes nothing. -/
def handle (m : Runtime) : Event → Runtime
  | .connected => if m.phase = .connecting then m.connected env else m
  | .unreachable => if m.phase = .connecting then m.fail else m
  | .greeted =>
    match m.phase with
    | .handshake connection => if m.readable connection then m.greeted connection else m
    | _ => m
  | .refused =>
    match m.phase with
    | .handshake _ => m.fail
    | _ => m
  | .relayEnded connection =>
    { m with
      links := m.links.update connection fun link => { link with framed.ended := true } }
  | .relayFailed connection =>
    if (m.links.get? connection).any fun link => !link.framed.destroyed then
      emitError connection { m with
        links := m.links.update connection fun link => { link with framed.destroyed := true } }
    else m
  | .relayClosed connection =>
    if (m.links.get? connection).any fun link => !link.gone then
      let closed := { m with
        links := m.links.update connection fun link =>
          { link with gone := true, framed.closed := true, framed.destroyed := true } }
      if m.phase = .handshake connection then closed.fail
      else if m.phase = .serving connection then closed.finished
      else closed
    else m
  | .frame frame =>
    match m.phase with
    | .serving connection => if m.readable connection then m.onFrame env connection frame else m
    | _ => m
  | .beat interval =>
    if interval ∈ m.intervals then m.send env interval (env.heartbeat m.clock) else m
  | .retry =>
    if m.phase = .delayed then { m with phase := if m.stopping then .returned else .connecting }
    else m
  | .stream name event => m.onStream env name event
  | .session name event => m.onSession env name event
  | .stop => m.stop

def step (m : Runtime) (event : Event) : Runtime :=
  if m.crashed then m else { m.handle env event with clock := m.clock + 1 }

end Runtime

end Tunnara.Agent
