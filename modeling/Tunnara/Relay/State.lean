/-
# The state of a Relay

The four maps of `RelayServer`, both ends of its connections, and what is suspended between two
events: route lookups, heartbeats on their way to the Control plane, timers. `faults` records
what the process cannot survive: an `'error'` event without a listener, an exception nothing
catches, a rejected promise nobody awaits. Edge connections have no `'error'` listener.

`via` of an entry is the agent connection its request was handed to. The source does not keep it;
no definition of the model reads it.
-/

import Tunnara.Data.Attempt
import Tunnara.Data.OrdMap
import Tunnara.Relay.Framing

namespace Tunnara.Relay

/-- A value used as a key of a `Map`: arrays and objects are equal only to themselves. -/
structure Key where
  value : Option Json
  identity : Option ℕ := none
  deriving DecidableEq

/-- The key a field of a received frame makes; every frame is a fresh object. -/
def Key.of (identity : ℕ) (value : Option Json) : Key :=
  match value with
  | some (.arr _) | some (.obj _) => ⟨value, some identity⟩
  | _ => ⟨value, none⟩

def Key.text (text : String) : Key := ⟨some (.str text), none⟩

/-- What a Relay runs with. The streams of identifiers, times and outcomes of the
local store are indexed by the clock of the state. -/
structure Env where
  host : Host
  codec : Codec
  /-- A `controlClient` is configured. -/
  distributed : Bool
  (uuid timestamp : ℕ → String)
  /-- The outcome of a write to the local store; `none` when it succeeds. -/
  store : ℕ → Option JsError

/-- A Relay with a Control plane, for worked inputs that consist of the listed frames. -/
def Env.plain (frames : List Json) : Env where
  host := .plain
  codec := .plain frames
  distributed := true
  uuid n := toString n
  timestamp n := toString n
  store _ := none

/-- What `#presence` rejects with: a failed call to the Control plane is only logged. -/
def Env.presenceError (env : Env) (clock : ℕ) : Option JsError :=
  if env.distributed then none else env.store clock

/-- How far the closure of `#acceptAgent` has come. -/
inductive Phase
  | awaitingHello
  | authenticating
  /-- In `agents`, while the presence update is awaited. -/
  | announcing
  | ready
  | refused
  deriving DecidableEq

structure AgentConnection where
  framed : FramedConnection := {}
  phase : Phase := .awaitingHello
  agentId : Option String := none
  authTimer : Bool := true
  /-- The socket's `'close'` was emitted. -/
  gone : Bool := false

structure EdgeConnection where
  framed : FramedConnection := {}
  streamId : Key := ⟨some .null, none⟩
  gone : Bool := false

/-- An entry of `pending`, `streams`, `udpSessions` or `healthProbes`. -/
structure Entry where
  edge : ℕ
  agentId : String
  timer : Option ℕ := none
  via : ℕ
  deriving DecidableEq

inductive Timer
  | proxyRequest (requestId : Key)
  | healthProbe (probeId : Key) (targetId : Option Json)

inductive LookupKind
  | proxyRequest
  | streamOpen
  | udpDatagram
  | healthProbe
  deriving DecidableEq

/-- A handler of an edge frame that awaits its route. -/
structure Lookup where
  kind : LookupKind
  edge : ℕ
  frame : Json
  /-- Tells the objects of this frame from those of others. -/
  identity : ℕ
  deriving DecidableEq

inductive Presence
  | online
  | offline

/-- What ends the process. -/
inductive Fault
  | unhandledError (edge : ℕ)
  | uncaughtException (error : JsError)
  | unhandledRejection (error : JsError)

/-- The three gauges of the metrics page. -/
structure Gauges where
  relayAgents : ℕ := 0
  relayPending : ℕ := 0
  relayStreams : ℕ := 0
  deriving DecidableEq

structure State where
  agentConns : OrdMap ℕ AgentConnection := .empty
  edgeConns : OrdMap ℕ EdgeConnection := .empty
  agents : OrdMap String ℕ := .empty
  pending : OrdMap Key Entry := .empty
  streams : OrdMap Key Entry := .empty
  udpSessions : OrdMap Key Entry := .empty
  healthProbes : OrdMap Key Entry := .empty
  activeProxyRequests : ℕ := 0
  timers : OrdMap ℕ Timer := .empty
  lookups : OrdMap ℕ Lookup := .empty
  heartbeats : OrdMap ℕ String := .empty
  /-- The presence updates asked for, oldest first. -/
  presence : List (String × Presence) := []
  gauges : Gauges := {}
  clock : ℕ := 0
  faults : List Fault := []

abbrev Handler := Attempt State JsError Unit

namespace State

/-- Every event and every frame of a chunk has a clock value of its own. -/
def tick (state : State) : State := { state with clock := state.clock + 1 }

def raise (state : State) (fault : Fault) : State :=
  { state with faults := state.faults ++ [fault] }

/-- The process has ended. -/
def Crashed (state : State) : Prop := state.faults ≠ []

instance (state : State) : Decidable state.Crashed := inferInstanceAs (Decidable (_ ≠ _))

@[simp]
theorem crashed_raise {state : State} {fault : Fault} : (state.raise fault).Crashed := by
  simp [raise, Crashed]

def putAgent (state : State) (connection : ℕ) (agent : AgentConnection) : State :=
  { state with agentConns := state.agentConns.set connection agent }

def putEdge (state : State) (edge : ℕ) (conn : EdgeConnection) : State :=
  { state with edgeConns := state.edgeConns.set edge conn }

/-- An agent connection after an operation; its `'error'` listener only logs. -/
def agentEffect (state : State) (connection : ℕ) (agent : AgentConnection) (effect : Effect) :
    State :=
  state.putAgent connection { agent with framed := effect.connection }

/-- An edge connection after an operation; nothing listens to its `'error'`. -/
def edgeEffect (state : State) (edge : ℕ) (conn : EdgeConnection) (effect : Effect) : State :=
  let next := state.putEdge edge { conn with framed := effect.connection }
  if effect.emitsError then next.raise (.unhandledError edge) else next

def modifyAgent (state : State) (connection : ℕ) (f : AgentConnection → AgentConnection) :
    State :=
  { state with agentConns := state.agentConns.update connection f }

def modifyEdge (state : State) (edge : ℕ) (f : EdgeConnection → EdgeConnection) : State :=
  { state with edgeConns := state.edgeConns.update edge f }

def closeAgent (state : State) (connection : ℕ) : State :=
  state.modifyAgent connection fun agent => { agent with framed := agent.framed.close }

def closeEdge (state : State) (edge : ℕ) : State :=
  state.modifyEdge edge fun conn => { conn with framed := conn.framed.close }

def destroyAgent (state : State) (connection : ℕ) : State :=
  state.modifyAgent connection fun agent => { agent with framed := agent.framed.destroy.connection }

def destroyEdge (state : State) (edge : ℕ) : State :=
  match state.edgeConns.get? edge with
  | none => state
  | some conn => state.edgeEffect edge conn conn.framed.destroy

def clearTimeout (state : State) (timer : Option ℕ) : State :=
  match timer with
  | none => state
  | some id => { state with timers := state.timers.erase id }

def setPendingGauge (state : State) : State :=
  { state with gauges := { state.gauges with relayPending := state.pending.size } }

def setStreamsGauge (state : State) : State :=
  { state with gauges := { state.gauges with relayStreams := state.streams.size } }

def setAgentsGauge (state : State) : State :=
  { state with gauges := { state.gauges with relayAgents := state.agents.size } }

/-- Drop a pending request and count it as done. -/
def dropPending (state : State) (requestId : Key) : State :=
  { state with
    pending := state.pending.erase requestId
    activeProxyRequests := state.activeProxyRequests - 1 }

def dropStream (state : State) (streamId : Key) : State :=
  { state with streams := state.streams.erase streamId }

def dropSession (state : State) (sessionId : Key) : State :=
  { state with udpSessions := state.udpSessions.erase sessionId }

def dropProbe (state : State) (probeId : Key) : State :=
  { state with healthProbes := state.healthProbes.erase probeId }

end State

variable (env : Env)

/-- `connection.send(payload)` on an agent connection. -/
def sendAgent (connection : ℕ) (payload : Json) : Handler := do
  let state ← get
  match state.agentConns.get? connection with
  | none => pure ()
  | some agent =>
    match agent.framed.send env.codec payload with
    | .error error => throw error
    | .ok effect => modify fun state => state.agentEffect connection agent effect

/-- `edge.send(payload)`. -/
def sendEdge (edge : ℕ) (payload : Json) : Handler := do
  let state ← get
  match state.edgeConns.get? edge with
  | none => pure ()
  | some conn =>
    match conn.framed.send env.codec payload with
    | .error error => throw error
    | .ok effect => modify fun state => state.edgeEffect edge conn effect

/-- `this.agents.get(agentId)?.connection.send(payload)`. -/
def sendToAgent (agentId : String) (payload : Json) : Handler := do
  let state ← get
  match state.agents.get? agentId with
  | none => pure ()
  | some connection => sendAgent env connection payload

namespace State

def agentFramed (state : State) (connection : ℕ) : Option FramedConnection :=
  (state.agentConns.get? connection).map AgentConnection.framed

def edgeFramed (state : State) (edge : ℕ) : Option FramedConnection :=
  (state.edgeConns.get? edge).map EdgeConnection.framed

/-- The socket of the edge has emitted its last error. -/
def EdgeDestroyed (state : State) (edge : ℕ) : Prop :=
  ∀ framed, state.edgeFramed edge = some framed → framed.destroyed = true

theorem agentFramed_modifyAgent (f : AgentConnection → AgentConnection)
    (h : ∀ agent, (f agent).framed = agent.framed) (state : State) (connection other : ℕ) :
    (state.modifyAgent connection f).agentFramed other = state.agentFramed other :=
  OrdMap.map_get?_update h other

theorem edgeFramed_modifyEdge (f : EdgeConnection → EdgeConnection)
    (h : ∀ conn, (f conn).framed = conn.framed) (state : State) (edge other : ℕ) :
    (state.modifyEdge edge f).edgeFramed other = state.edgeFramed other :=
  OrdMap.map_get?_update h other

end State

/-- The entry a field of a received frame refers to. -/
def named (state : State) (entries : OrdMap Key Entry) (frame : Json) (name : String) :
    Option Entry :=
  entries.get? (Key.of state.clock (frame.get? name))

/-- Sending the frame on the agent connection does not throw. -/
def SafeAgent (state : State) (connection : ℕ) (payload : Json) : Prop :=
  ∀ framed, state.agentFramed connection = some framed → framed.silent = false →
    FramedConnection.Fits env.codec payload

/-- Sending the frame on the edge connection neither throws nor emits an `'error'`. -/
def SafeEdge (state : State) (edge : ℕ) (payload : Json) : Prop :=
  ∀ framed, state.edgeFramed edge = some framed → framed.silent = false →
    FramedConnection.Fits env.codec payload ∧ framed.ended = false

/-- Sending the frame to the agent's current connection does not throw. -/
def SafeToAgent (state : State) (agentId : String) (payload : Json) : Prop :=
  ∀ connection, state.agents.get? agentId = some connection → SafeAgent env state connection payload

open State Attempt

theorem crashed_edgeEffect (state : State) (edge : ℕ) (conn : EdgeConnection) (effect : Effect) :
    (state.edgeEffect edge conn effect).Crashed ↔ state.Crashed ∨ effect.emitsError = true := by
  unfold edgeEffect
  cases effect.emitsError with
  | true => simp
  | false => simp [Crashed, putEdge]

@[simp]
theorem crashed_closeEdge {state : State} {edge : ℕ} :
    (state.closeEdge edge).Crashed ↔ state.Crashed := Iff.rfl

@[simp]
theorem crashed_closeAgent {state : State} {connection : ℕ} :
    (state.closeAgent connection).Crashed ↔ state.Crashed := Iff.rfl

@[simp]
theorem crashed_destroyAgent (state : State) (connection : ℕ) :
    (state.destroyAgent connection).Crashed ↔ state.Crashed := Iff.rfl

@[simp]
theorem crashed_clearTimeout (state : State) (timer : Option ℕ) :
    (state.clearTimeout timer).Crashed ↔ state.Crashed := by
  unfold clearTimeout
  split <;> rfl

theorem crashed_destroyEdge (state : State) (edge : ℕ) :
    (state.destroyEdge edge).Crashed ↔ state.Crashed ∨ ¬ state.EdgeDestroyed edge := by
  unfold destroyEdge EdgeDestroyed edgeFramed
  cases hconn : state.edgeConns.get? edge with
  | none => simp
  | some conn => simp [crashed_edgeEffect, FramedConnection.destroy]

theorem exec_sendAgent (connection : ℕ) (payload : Json) (state : State) :
    exec (sendAgent env connection payload) state =
      match state.agentConns.get? connection with
      | none => (.ok ⟨⟩, state)
      | some agent =>
        match agent.framed.send env.codec payload with
        | .error error => (.error error, state)
        | .ok effect => (.ok ⟨⟩, state.agentEffect connection agent effect) := by
  rw [sendAgent, exec_bind, exec_get]
  cases hagent : state.agentConns.get? connection with
  | none => simp only [hagent, exec_pure]
  | some agent =>
    cases hsend : agent.framed.send env.codec payload with
    | error error => simp only [hagent, hsend, exec_throw]
    | ok effect => simp only [hagent, hsend, exec_modify]

theorem exec_sendEdge (edge : ℕ) (payload : Json) (state : State) :
    exec (sendEdge env edge payload) state =
      match state.edgeConns.get? edge with
      | none => (.ok ⟨⟩, state)
      | some conn =>
        match conn.framed.send env.codec payload with
        | .error error => (.error error, state)
        | .ok effect => (.ok ⟨⟩, state.edgeEffect edge conn effect) := by
  rw [sendEdge, exec_bind, exec_get]
  cases hconn : state.edgeConns.get? edge with
  | none => simp only [hconn, exec_pure]
  | some conn =>
    cases hsend : conn.framed.send env.codec payload with
    | error error => simp only [hconn, hsend, exec_throw]
    | ok effect => simp only [hconn, hsend, exec_modify]

variable {payload : Json}

theorem guarded_sendAgent {connection : ℕ} :
    Guarded Crashed (sendAgent env connection payload) fun state =>
      SafeAgent env state connection payload := by
  intro state
  rw [sendAgent, fails_get_bind]
  unfold SafeAgent agentFramed
  cases hagent : state.agentConns.get? connection with
  | none => simp [hagent]
  | some agent =>
    simp only [hagent, Option.map_some, Option.some.injEq, forall_eq']
    cases hsend : agent.framed.send env.codec payload with
    | error error =>
      have hbad := FramedConnection.send_eq_error_iff.1 ⟨error, hsend⟩
      simp [hbad]
    | ok effect =>
      have hsafe := FramedConnection.fits_of_send hsend
      have hcrashed : (state.agentEffect connection agent effect).Crashed ↔ state.Crashed := Iff.rfl
      tauto

theorem guarded_sendEdge {edge : ℕ} :
    Guarded Crashed (sendEdge env edge payload) fun state => SafeEdge env state edge payload := by
  intro state
  rw [sendEdge, fails_get_bind]
  unfold SafeEdge edgeFramed
  cases hconn : state.edgeConns.get? edge with
  | none => simp [hconn]
  | some conn =>
    simp only [hconn, Option.map_some, Option.some.injEq, forall_eq']
    cases hsend : conn.framed.send env.codec payload with
    | error error =>
      have hbad := FramedConnection.send_eq_error_iff.1 ⟨error, hsend⟩
      simp [hbad]
    | ok effect =>
      have hemits := FramedConnection.emitsError_of_send hsend
      simp only [fails_modify, crashed_edgeEffect, hemits]

theorem guarded_sendToAgent {agentId : String} :
    Guarded Crashed (sendToAgent env agentId payload) fun state =>
      SafeToAgent env state agentId payload := by
  intro state
  rw [sendToAgent, fails_get_bind]
  unfold SafeToAgent
  cases hconn : state.agents.get? agentId with
  | none => simp [hconn]
  | some connection => simp [hconn, guarded_sendAgent env state]

variable {inv guard : State → Prop}

theorem keeps_sendAgent {connection : ℕ} {payload : Json}
    (h : ∀ state agent effect, inv state → guard state →
      state.agentConns.get? connection = some agent →
      agent.framed.send env.codec payload = .ok effect →
      inv (state.agentEffect connection agent effect)) :
    Keeps inv guard (sendAgent env connection payload) := by
  intro state hinv hguard
  rw [exec_sendAgent]
  cases hagent : state.agentConns.get? connection with
  | none => exact hinv
  | some agent =>
    cases hsend : agent.framed.send env.codec payload with
    | error error => simpa only [hsend] using hinv
    | ok effect => simpa only [hsend] using h state agent effect hinv hguard hagent hsend

theorem keeps_sendEdge {edge : ℕ} {payload : Json}
    (h : ∀ state conn effect, inv state → guard state →
      state.edgeConns.get? edge = some conn →
      conn.framed.send env.codec payload = .ok effect →
      inv (state.edgeEffect edge conn effect)) : Keeps inv guard (sendEdge env edge payload) := by
  intro state hinv hguard
  rw [exec_sendEdge]
  cases hconn : state.edgeConns.get? edge with
  | none => exact hinv
  | some conn =>
    cases hsend : conn.framed.send env.codec payload with
    | error error => simpa only [hsend] using hinv
    | ok effect => simpa only [hsend] using h state conn effect hinv hguard hconn hsend

theorem keeps_sendToAgent {agentId : String} {payload : Json} (h : ∀ connection, Keeps inv
      (fun state => guard state ∧ state.agents.get? agentId = some connection)
      (sendAgent env connection payload)) : Keeps inv guard (sendToAgent env agentId payload) := by
  intro state hinv hguard
  rw [sendToAgent, exec_bind, exec_get]
  cases hconnection : state.agents.get? agentId with
  | none => simpa only [hconnection, exec_pure] using hinv
  | some connection =>
    simpa only [hconnection] using h connection state hinv ⟨hguard, hconnection⟩

end Tunnara.Relay
