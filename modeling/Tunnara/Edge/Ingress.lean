/-
# Published ports

`TcpIngressManager` and `UdpIngressManager` keep a listener on the public port of every active
tunnel of their protocol. The handler of a listener keeps the route of the `sync` that opened it,
and as long as its port stays wanted (for TCP: by the same tunnel) `sync` passes it over. A `sync`
is one step here, in which the system decides on each bind.
-/

import Tunnara.Control.PublicPorts
import Tunnara.Edge.TcpIngress

namespace Tunnara.Edge

open Relay Control Transition OrdMap

inductive Transport
  | tcp
  | udp

def Transport.protocol : Transport → String
  | .tcp => "tcp"
  | .udp => "udp"

def clientSession (route : Route) (streamId : String) : TcpSession where
  streamId := streamId
  tunnelId := text route.tunnel.id
  targetId := route.target?.map fun target => .str target.id

/-- What `#onDatagram` sends. -/
def datagramFrame (route : Route) (sessionId : String) (message : List UInt8) : Json :=
  frameOf [("type", text "udp_datagram"), ("sessionId", text sessionId),
    ("tunnelId", text route.tunnel.id), ("targetId", some route.pin),
    ("dataBase64", text (Base64.encode message))]

/-- The first frame for a client, or the frame for a datagram, under the id drawn for it. -/
def Transport.frame (route : Route) (id : String) (message : List UInt8) : Transport → Json
  | .tcp => (clientSession route id).openingFrame
  | .udp => datagramFrame route id message

/-- Whether `sync` closes a listener opened for a route, given the route it has read. -/
def Transport.closes : Transport → Option Route → Route → Bool
  | _, none, _ => true
  | .tcp, some current, opened => current.tunnel.id ≠ opened.tunnel.id
  | .udp, some _, _ => false

/-- The second loop; `binds` is the answer of the system. A bind that fails ends it. -/
def publish (binds : ℕ → Bool) : List (ℕ × Route) → OrdMap ℕ Route → OrdMap ℕ Route × Bool
  | [], listeners => (listeners, true)
  | (port, route) :: rest, listeners =>
    if (listeners.get? port).isSome then publish binds rest listeners
    else if binds port then publish binds rest (listeners.set port route)
    else (listeners, false)

/-- The store, and for each published port the route its handler keeps. -/
structure Ingress where
  table : RoutingTable
  listeners : OrdMap ℕ Route

namespace Ingress

variable (transport : Transport) (state : Ingress)

def desired : OrdMap ℕ Route := state.table.desired transport.protocol

/-- The listeners after the first loop. -/
def kept : OrdMap ℕ Route :=
  state.listeners.filter fun port opened =>
    !transport.closes ((state.desired transport).get? port) opened

def published (binds : ℕ → Bool) : OrdMap ℕ Route × Bool :=
  publish binds (state.desired transport).entries (state.kept transport)

/-- `sync`; whether it completes is the second component of `published`. -/
def sync (binds : ℕ → Bool) : Ingress where
  table := state.table.afterRead transport.protocol
  listeners := (state.published transport binds).1

inductive Event
  /-- Tunnels, targets, agents or presences change in any way. -/
  | changed (table : RoutingTable)
  | sync (binds : ℕ → Bool)

def step : Event → Ingress
  | .changed table => { state with table }
  | .sync binds => state.sync transport binds

/-- The event is a `sync` that completes. -/
def Completes : Event → Prop
  | .changed _ => False
  | .sync binds => (state.published transport binds).2 = true

/-- The published ports are those of the active tunnels, and what arrives at one goes to
its tunnel, to an eligible target and to the Relay of that target's agent. -/
structure Refines : Prop where
  ports : ∀ port, state.listeners.get? port ≠ none ↔
    ∃ id, state.table.Owns transport.protocol port id
  traffic : ∀ port opened, state.listeners.get? port = some opened → ∀ id message,
    ∃ owner, state.table.Owns transport.protocol port owner ∧
      (transport.frame opened id message).get? "tunnelId" = text owner ∧
      ∃ pin, (transport.frame opened id message).get? "targetId" = some pin ∧
        state.table.Serves owner pin (relayUrl opened.presence?)

/-- No listener that a `sync` would leave open has a route that is out of date. -/
def NoneOutdated : Prop :=
  ∀ port opened, (state.kept transport).get? port = some opened →
    state.table.UpToDate transport.protocol port opened

variable {transport state} {route : Route}

theorem frame_tunnelId {id : String} {message : List UInt8} :
    (transport.frame route id message).get? "tunnelId" = text route.tunnel.id := by
  cases transport <;> rfl

theorem frame_targetId {id : String} {message : List UInt8} :
    (transport.frame route id message).get? "targetId" = some route.pin := by
  cases transport <;> rfl

variable {port : ℕ} {opened : Route} {binds : ℕ → Bool} {routes : List (ℕ × Route)}
  {listeners : OrdMap ℕ Route}

theorem traffic_iff {table : RoutingTable} {protocol : String} :
    (∀ id message, ∃ owner, table.Owns protocol port owner ∧
      (transport.frame opened id message).get? "tunnelId" = text owner ∧
      ∃ pin, (transport.frame opened id message).get? "targetId" = some pin ∧
        table.Serves owner pin (relayUrl opened.presence?)) ↔
    table.UpToDate protocol port opened := by
  constructor
  · intro h
    obtain ⟨owner, howns, hid, pin, hpin, hserves⟩ := h "" []
    rw [frame_tunnelId] at hid
    rw [frame_targetId] at hpin
    cases hid
    cases hpin
    exact ⟨howns, hserves⟩
  · intro h id message
    exact ⟨opened.tunnel.id, h.owner, frame_tunnelId, opened.pin, frame_targetId, h.serves⟩

theorem upToDate_afterRead {table : RoutingTable} {protocol : String} :
    (table.afterRead protocol).UpToDate protocol port route ↔ table.UpToDate protocol port route :=
  ⟨fun h => ⟨h.owner, h.serves⟩, fun h => ⟨h.owner, h.serves⟩⟩

theorem get?_publish (h : (publish binds routes listeners).1.get? port = some opened) :
    listeners.get? port = some opened ∨
      listeners.get? port = none ∧ (port, opened) ∈ routes := by
  induction routes generalizing listeners with
  | nil => exact .inl h
  | cons first rest ih =>
    obtain ⟨other, route⟩ := first
    unfold publish at h
    split_ifs at h with hlisted hbind
    · exact (ih h).imp_right fun hnew => ⟨hnew.1, List.mem_cons_of_mem _ hnew.2⟩
    · rcases ih h with hset | ⟨hnone, hmem⟩
      · rw [get?_set] at hset
        split_ifs at hset with hport
        · cases hset
          subst hport
          rw [Option.isSome_iff_ne_none, not_not] at hlisted
          exact .inr ⟨hlisted, List.mem_cons_self⟩
        · exact .inl hset
      · rw [get?_set] at hnone
        split_ifs at hnone
        exact .inr ⟨hnone, List.mem_cons_of_mem _ hmem⟩
    · exact .inl h

theorem get?_publish_of_some (h : listeners.get? port = some opened) :
    (publish binds routes listeners).1.get? port = some opened := by
  induction routes generalizing listeners with
  | nil => exact h
  | cons first rest ih =>
    obtain ⟨other, route⟩ := first
    unfold publish
    split_ifs with hlisted hbind
    · exact ih h
    · apply ih
      rw [get?_set_of_ne]
      · exact h
      · rintro rfl
        rw [h] at hlisted
        exact hlisted rfl
    · exact h

theorem get?_publish_ne_none (hdone : (publish binds routes listeners).2 = true)
    (h : (port, route) ∈ routes) : (publish binds routes listeners).1.get? port ≠ none := by
  induction routes generalizing listeners with
  | nil => cases h
  | cons first rest ih =>
    obtain ⟨other, read⟩ := first
    unfold publish at hdone ⊢
    split_ifs at hdone ⊢ with hlisted hbind
    · rcases List.mem_cons.1 h with hfirst | hrest
      · cases hfirst
        obtain ⟨opened, hopened⟩ := Option.isSome_iff_exists.1 hlisted
        rw [get?_publish_of_some hopened]
        exact Option.some_ne_none _
      · exact ih hdone hrest
    · rcases List.mem_cons.1 h with hfirst | hrest
      · cases hfirst
        rw [get?_publish_of_some (get?_set_self _ _ _)]
        exact Option.some_ne_none _
      · exact ih hdone hrest

theorem get?_kept :
    (state.kept transport).get? port = some opened ↔
      state.listeners.get? port = some opened ∧
        transport.closes ((state.desired transport).get? port) opened = false := by
  rw [kept, get?_filter, Option.filter_eq_some_iff, Bool.not_eq_true']

theorem desired_of_kept (h : (state.kept transport).get? port = some opened) :
    (state.desired transport).get? port ≠ none := by
  intro hnone
  have hopen := (get?_kept.1 h).2
  rw [hnone] at hopen
  cases transport <;> cases hopen

theorem ports_sync (hdone : (state.published transport binds).2 = true) (port : ℕ) :
    (state.sync transport binds).listeners.get? port ≠ none ↔
      ∃ id, state.table.Owns transport.protocol port id := by
  rw [← RoutingTable.desired_isSome_iff]
  constructor
  · intro h
    obtain ⟨opened, hopened⟩ := Option.ne_none_iff_exists'.1 h
    rcases get?_publish hopened with hkept | ⟨-, hread⟩
    · exact desired_of_kept hkept
    · rw [← desired, get?_eq_some_iff.2 hread]
      exact Option.some_ne_none _
  · intro h
    obtain ⟨route, hroute⟩ := Option.ne_none_iff_exists'.1 h
    exact get?_publish_ne_none hdone (get?_eq_some_iff.1 hroute)

theorem traffic_sync_iff {binds : ℕ → Bool} :
    (∀ port opened, (state.sync transport binds).listeners.get? port = some opened →
      state.table.UpToDate transport.protocol port opened) ↔ state.NoneOutdated transport := by
  constructor
  · intro h port opened hkept
    exact h port opened (get?_publish_of_some hkept)
  · intro h port opened hopened
    rcases get?_publish hopened with hkept | ⟨-, hread⟩
    · exact h port opened hkept
    · exact RoutingTable.upToDate_of_desired (get?_eq_some_iff.2 hread)

theorem refines_sync_iff (hdone : (state.published transport binds).2 = true) :
    Refines transport (state.sync transport binds) ↔ state.NoneOutdated transport := by
  rw [← traffic_sync_iff]
  constructor
  · intro h port opened hopened
    exact upToDate_afterRead.1 (traffic_iff.1 (h.traffic port opened hopened))
  · intro h
    refine ⟨ports_sync hdone, fun port opened hopened => ?_⟩
    exact traffic_iff.2 (upToDate_afterRead.2 (h port opened hopened))

variable (transport)

/-- After every sync of a run that completes, the ports are those of the active tunnels and
the traffic goes where the store says, exactly when no such sync passes over a listener
whose route is out of date. -/
theorem refines_run_iff (start : Ingress) (events : List Event) :
    Along (step transport) (fun state event =>
        state.Completes transport event → Refines transport (state.step transport event))
      start events ↔
    Along (step transport) (fun state event =>
        state.Completes transport event → state.NoneOutdated transport) start events := by
  induction events generalizing start with
  | nil => exact Iff.rfl
  | cons event events ih =>
    rw [along_cons, along_cons, ih]
    refine and_congr_left fun _ => forall_congr' fun hdone => ?_
    cases event with
    | changed table => exact hdone.elim
    | sync binds => exact refines_sync_iff hdone

def sharedTunnels : OrdMap String TunnelRow :=
  (OrdMap.empty.set "t1"
      ⟨"t1", "org", "a1", none, "ssh", "tcp", "ssh.internal.tunnara", "active", false⟩).set "t2"
    ⟨"t2", "org", "a1", none, "dns", "udp", "dns.internal.tunnara", "active", false⟩

/-- A tunnel of each protocol on port 20000; their agent is connected to the Relay. -/
def connectedTo (relay : String) : RoutingTable where
  db :=
    { agents := OrdMap.empty.set "a1" ⟨"a1", "org", "online", none⟩
      tunnels := sharedTunnels
      targets := (OrdMap.empty.set "g1"
          ⟨"g1", "org", "t1", "a1", "default", "127.0.0.1", 22, 1, one_le_weight, 100, true,
            "healthy"⟩).set "g2"
        ⟨"g2", "org", "t2", "a1", "default", "127.0.0.1", 53, 1, one_le_weight, 100, true,
          "healthy"⟩
      policies := OrdMap.empty
      presence := OrdMap.empty.set "a1" ⟨"a1", some "n1", some relay⟩
      targetSelectionCounters := OrdMap.empty
      targets_keyed := by decide }
  publicPort := fun _ => some 20000
  tunnels_keyed := show ∀ e ∈ sharedTunnels.entries, e.2.id = e.1 by decide
  ports_unique := show ∀ first ∈ sharedTunnels.entries, ∀ second ∈ sharedTunnels.entries,
    first.2.status = "active" → second.2.status = "active" →
    first.2.protocol = second.2.protocol → some 20000 ≠ none → some 20000 = some 20000 →
    first.1 = second.1 by decide

def binding : Event := .sync fun _ => true

def move : List Event :=
  [.changed (connectedTo "tls://one"), binding, .changed (connectedTo "tls://two"), binding]

theorem stale_move :
    ¬ Along (step transport) (fun state event =>
        state.Completes transport event → Refines transport (state.step transport event))
      ⟨connectedTo "tls://one", .empty⟩ move := by
  intro h
  have hdone : Completes transport
      (run (step transport) ⟨connectedTo "tls://one", .empty⟩ (move.take 3)) binding := by
    show (published transport _ _).2 = true
    cases transport <;> decide +kernel
  have hopened : ∃ opened, (kept transport
        (run (step transport) ⟨connectedTo "tls://one", .empty⟩ (move.take 3))).get? 20000 =
          some opened ∧
      ¬ (connectedTo "tls://two").Serves opened.tunnel.id opened.pin
        (relayUrl opened.presence?) := by
    cases transport with
    | tcp | udp => exact ⟨_, rfl, by decide +kernel⟩
  obtain ⟨opened, hkept, hnot⟩ := hopened
  have hcurrent := (refines_sync_iff hdone).1 (h.2.2.2.1 hdone)
  exact hnot (hcurrent 20000 opened hkept).serves

theorem not_refines_move :
    ¬ Along (step .tcp) (fun state event =>
        state.Completes .tcp event → Refines .tcp (state.step .tcp event))
      ⟨connectedTo "tls://one", .empty⟩ move ∧
    ¬ Along (step .udp) (fun state event =>
        state.Completes .udp event → Refines .udp (state.step .udp event))
      ⟨connectedTo "tls://one", .empty⟩ move :=
  ⟨stale_move .tcp, stale_move .udp⟩

end Ingress

end Tunnara.Edge
