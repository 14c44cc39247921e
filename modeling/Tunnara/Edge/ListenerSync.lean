/-
# Overlapping listener syncs

The interval starts a `sync` whether or not the earlier ones are over. A run of `sync` lets others
in where it awaits the answer of the Control API, the `'close'` of a TCP server or the outcome of
a bind; with the store in its own process it reads the routes at once.

`close` gives up the port at once. `'close'` is emitted when the connections have ended, and then
the runs that called `close` go on, one after the other, before anything else happens.
-/

import Tunnara.Data.LiveMap
import Tunnara.Edge.Ingress

namespace Tunnara.Edge

open Control Transition

/-- A socket that a `sync` has created. -/
structure ListenSocket where
  port : ℕ
  bound : Bool := false
  /-- The runs that await its `'close'`, in the order of their calls. -/
  waiters : List ℕ := []
  deriving DecidableEq

/-- An entry of `listeners`: the socket, and the route its handler keeps. -/
structure Listener where
  socket : ℕ
  route : Route
  deriving DecidableEq

/-- What a run of `sync` awaits. -/
inductive Awaits
  /-- The Control API reads the routes. -/
  | routes
  /-- The routes were read, and their answer is on its way. -/
  | answer (desired : OrdMap ℕ Route)
  /-- The `'close'` of the server on a port; the first loop goes on at a position. -/
  | close (desired : OrdMap ℕ Route) (position port : ℕ)
  /-- The outcome of a bind in the second loop. -/
  | bind (socket port : ℕ) (route : Route) (rest : List (ℕ × Route))

/-- A manager, the runs of its `sync` and the store they read. -/
structure Manager where
  table : RoutingTable
  listeners : LiveMap ℕ Listener := .empty
  sockets : OrdMap ℕ ListenSocket := .empty
  runs : OrdMap ℕ Awaits := .empty
  /-- The runs that go on before the next event. -/
  ready : List ℕ := []
  /-- The name of the next run or socket. -/
  clock : ℕ := 0

/-- Whether a run closes a listener by the routes it has read. -/
def stale (transport : Transport) (desired : OrdMap ℕ Route) (port : ℕ) (listener : Listener) :
    Bool :=
  transport.closes (desired.get? port) listener.route

namespace Manager

/-- A run creates a socket and awaits its bind. -/
def startBind (m : Manager) (r port : ℕ) (route : Route) (rest : List (ℕ × Route)) : Manager :=
  { m with
    sockets := m.sockets.set m.clock { port }
    runs := m.runs.set r (.bind m.clock port route rest)
    clock := m.clock + 1 }

/-- The second loop up to the next bind, or the end of the run. -/
def publishFrom (r : ℕ) : List (ℕ × Route) → Manager → Manager
  | [], m => { m with runs := m.runs.erase r }
  | (port, route) :: rest, m =>
    if (m.listeners.get? port).isSome then publishFrom r rest m
    else m.startBind r port route rest

def closeSocket (m : Manager) (id : ℕ) (waiting : List ℕ) : Manager :=
  { m with
    sockets := m.sockets.update id fun socket =>
      { socket with bound := false, waiters := socket.waiters ++ waiting } }

/-- The first loop of UDP, which awaits nothing. -/
def closeAll (desired : OrdMap ℕ Route) : List (ℕ × Listener) → Manager → Manager
  | [], m => m
  | (port, listener) :: rest, m =>
    if stale .udp desired port listener then
      closeAll desired rest
        { m.closeSocket listener.socket [] with listeners := m.listeners.delete port }
    else closeAll desired rest m

variable (transport : Transport)

/-- The rest of a run from a position of the first loop up to what it awaits next. -/
def syncFrom (r : ℕ) (desired : OrdMap ℕ Route) (position : ℕ) (m : Manager) : Manager :=
  match transport with
  | .tcp =>
    match m.listeners.next (stale .tcp desired) position with
    | some (later, port, listener) =>
      { m.closeSocket listener.socket [r] with
        runs := m.runs.set r (.close desired later port) }
    | none => m.publishFrom r desired.entries
  | .udp => (m.closeAll desired m.listeners.entries).publishFrom r desired.entries

/-- The bind of a run has succeeded. -/
def record (m : Manager) (r id port : ℕ) (route : Route) : Manager :=
  { m with
    sockets := m.sockets.update id fun socket => { socket with bound := true }
    listeners := m.listeners.set port ⟨id, route⟩
    runs := m.runs.erase r }

/-- No socket is bound to the port. -/
def free (m : Manager) (port : ℕ) : Bool :=
  m.sockets.entries.all fun e => !(e.2.bound && e.2.port = port)

inductive Event
  /-- Tunnels, targets, agents or presences change in any way. -/
  | changed (table : RoutingTable)
  /-- The interval starts a run. -/
  | tick
  | read (r : ℕ)
  | unanswered (r : ℕ)
  | answered (r : ℕ)
  /-- The connections of a closed server have ended. -/
  | closed (socket : ℕ)
  /-- The first run that is ready goes on. -/
  | resumed
  | bound (r : ℕ)
  | failed (r : ℕ)

/-- An event while no run is ready; one that cannot occur changes nothing. -/
def react (m : Manager) : Event → Manager
  | .changed table => { m with table }
  | .tick => { m with runs := m.runs.set m.clock .routes, clock := m.clock + 1 }
  | .read r =>
    match m.runs.get? r with
    | some .routes => { m with
        table := m.table.afterRead transport.protocol
        runs := m.runs.set r (.answer (m.table.desired transport.protocol)) }
    | _ => m
  | .unanswered r =>
    match m.runs.get? r with
    | some .routes | some (.answer _) => { m with runs := m.runs.erase r }
    | _ => m
  | .answered r =>
    match m.runs.get? r with
    | some (.answer desired) => m.syncFrom transport r desired 0
    | _ => m
  | .closed id =>
    match m.sockets.get? id with
    | some socket =>
      if socket.bound then m
      else { m with
        ready := socket.waiters
        sockets := m.sockets.set id { socket with waiters := [] } }
    | none => m
  | .resumed => m
  | .bound r =>
    match m.runs.get? r with
    | some (.bind id port route rest) =>
      if m.free port then publishFrom r rest (m.record r id port route) else m
    | _ => m
  | .failed r =>
    match m.runs.get? r with
    | some (.bind _ _ _ _) => { m with runs := m.runs.erase r }
    | _ => m

/-- A run goes on after the `'close'` it awaited. -/
def resume (m : Manager) (r : ℕ) (others : List ℕ) : Manager :=
  match m.runs.get? r with
  | some (.close desired position port) =>
    syncFrom transport r desired position
      { m with ready := others, listeners := m.listeners.delete port }
  | _ => { m with ready := others }

def step (m : Manager) (event : Event) : Manager :=
  match m.ready, event with
  | [], event => m.react transport event
  | r :: others, .resumed => m.resume transport r others
  | _ :: _, _ => m

def Bound (m : Manager) (id port : ℕ) : Prop :=
  ∃ socket, m.sockets.get? id = some socket ∧ socket.bound = true ∧ socket.port = port

/-- Every bound socket has exactly one entry, and no two are bound to one port. -/
structure Recorded (m : Manager) : Prop where
  listed : ∀ id port, m.Bound id port →
    ∃! e : ℕ × Listener, m.listeners.get? e.1 = some e.2 ∧ e.2.socket = id
  distinct : ∀ id other port, m.Bound id port → m.Bound other port → id = other

/-- A listener that the store wants, as it is now. -/
def Unwanted (m : Manager) (port : ℕ) (listener : Listener) : Prop :=
  stale transport (m.table.desired transport.protocol) port listener = true

/-- A step closes no listener that is wanted. -/
def ClosesUnwanted (m : Manager) (event : Event) : Prop :=
  ∀ id port listener, m.Bound id port → ¬ (m.step transport event).Bound id port →
    m.listeners.get? port = some listener → listener.socket = id →
    m.Unwanted transport port listener

/-- The run still comes to the port. -/
def OnTheWay (m : Manager) (r port : ℕ) : Prop :=
  match m.runs.get? r with
  | some (.answer desired) | some (.close desired _ _) => desired.get? port ≠ none
  | some (.bind _ current _ rest) => port = current ∨ port ∈ rest.map Prod.fst
  | _ => False

/-- The port is published, or a run that still comes to it is under way. -/
def Served (m : Manager) (port : ℕ) : Prop :=
  (∃ id, m.Bound id port) ∨ ∃ r, m.OnTheWay r port

/-- A bind that fails does not keep the other ports of the run from being published. -/
def FailsAlone (m : Manager) : Event → Prop
  | .failed r => m.ready = [] → ∀ id port route rest,
      m.runs.get? r = some (.bind id port route rest) →
      ∀ other ∈ rest.map Prod.fst, (m.step transport (.failed r)).Served other
  | _ => True

/-- When a run is past its first loop, what it found and did not want is closed. -/
def Retires (start : Manager) (events : List Event) : Prop :=
  ∀ before later r desired, events = before ++ .answered r :: later →
    (run (step transport) start before).ready = [] →
    (run (step transport) start before).runs.get? r = some (.answer desired) →
    ∀ port listener, (run (step transport) start before).listeners.get? port = some listener →
      stale transport desired port listener = true →
      (∀ own position awaited,
        (run (step transport) start events).runs.get? r ≠ some (.close own position awaited)) →
      ¬ (run (step transport) start events).Bound listener.socket port

/-- What overlapping syncs must not break. -/
structure Safe (start : Manager) (events : List Event) : Prop where
  recorded : Throughout (step transport) Recorded start events
  closes : Along (step transport) (ClosesUnwanted transport) start events
  fails : Along (step transport) (FailsAlone transport) start events
  retires : Retires transport start events

/-- Of the given listeners, a run closes this one next from a position. -/
def Closes (listeners : LiveMap ℕ Listener) (desired : OrdMap ℕ Route) (position port : ℕ)
    (listener : Listener) : Prop :=
  match transport with
  | .tcp => ∃ later, listeners.next (stale .tcp desired) position = some (later, port, listener)
  | .udp => listeners.get? port = some listener ∧ stale .udp desired port listener = true

/-- What a run closes next is unwanted, as the store is now. -/
def ClosesNext (m : Manager) (listeners : LiveMap ℕ Listener) (desired : OrdMap ℕ Route)
    (position : ℕ) : Prop :=
  ∀ port listener, Closes transport listeners desired position port listener →
    m.Bound listener.socket port → m.Unwanted transport port listener

/-- What a run is about to close is still unwanted, what it is about to delete is not the
entry of a server that was published while it waited, and where its bind fails the ports
behind are published or another run comes to them. -/
def Undisturbed (m : Manager) (event : Event) : Prop :=
  match m.ready, event with
  | [], .answered r => ∀ desired, m.runs.get? r = some (.answer desired) →
      m.ClosesNext transport m.listeners desired 0
  | [], .failed r => ∀ id port route rest, m.runs.get? r = some (.bind id port route rest) →
      ∀ other ∈ rest.map Prod.fst, (∃ id, m.Bound id other) ∨ ∃ r', r' ≠ r ∧ m.OnTheWay r' other
  | r :: _, .resumed => ∀ desired position port,
      m.runs.get? r = some (.close desired position port) →
      (∀ listener, m.listeners.get? port = some listener → ¬ m.Bound listener.socket port) ∧
        m.ClosesNext transport (m.listeners.delete port) desired position
  | _, _ => True

end Manager

end Tunnara.Edge
