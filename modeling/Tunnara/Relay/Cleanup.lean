/-
# What a closed edge leaves behind

The `'close'` listener of an edge drops one stream, the one the edge opened last, and none of its
UDP sessions; a route lookup that is answered after the close still enters what it was asked for.
Pending requests and probes have a timer that takes them away.
-/

import Tunnara.Relay.Isolation

namespace Tunnara.Relay

open State Attempt Transition OrdMap

variable (env : Env)

/-- The edge has closed. -/
def State.EdgeGone (state : State) (edge : ℕ) : Prop :=
  ∃ conn, state.edgeConns.get? edge = some conn ∧ conn.gone = true

/-- The edge is there and has not closed. -/
def State.EdgeOpen (state : State) (edge : ℕ) : Prop :=
  ∃ conn, state.edgeConns.get? edge = some conn ∧ conn.gone = false

/-- The edge has closed and the route lookups of its frames have completed. -/
structure Departed (state : State) (edge : ℕ) : Prop where
  gone : state.EdgeGone edge
  completed : ∀ id lookup, state.lookups.get? id = some lookup → lookup.edge ≠ edge

/-- Nothing refers to the edge but pending requests and probes whose timer runs. -/
structure CleanedUp (state : State) (edge : ℕ) : Prop where
  streams : ∀ streamId entry, state.streams.get? streamId = some entry → entry.edge ≠ edge
  sessions : ∀ sessionId entry, state.udpSessions.get? sessionId = some entry → entry.edge ≠ edge
  waiting : ∀ entry, Waits state entry → entry.edge = edge →
    ∃ id, entry.timer = some id ∧ state.timers.get? id ≠ none

/-- The four maps are empty. -/
structure Idle (state : State) : Prop where
  pending : state.pending.size = 0
  streams : state.streams.size = 0
  sessions : state.udpSessions.size = 0
  probes : state.healthProbes.size = 0

/-- The close of an edge finds at most the stream it opened last. -/
structure ClosesWithOneStream (state : State) (edge : ℕ) (conn : EdgeConnection) : Prop where
  streams : ∀ streamId entry, state.streams.get? streamId = some entry → entry.edge = edge →
    truthy conn.streamId.value = true ∧ streamId = conn.streamId
  sessions : ∀ sessionId entry, state.udpSessions.get? sessionId = some entry → entry.edge ≠ edge

/-- The answer to a lookup enters a stream or a UDP session. -/
def Enters (state : State) (lookup : Lookup) (route : Route) : Prop :=
  ∃ tunnel target connection, connectedTarget state route = some (tunnel, target, connection) ∧
    (lookup.kind = .streamOpen ∨ lookup.kind = .udpDatagram ∧ tunnel.protocol = text "udp")

/-- An edge closes with at most the stream it opened last, and nothing is entered for a
closed edge that no timer takes away. -/
structure ClosesTidily (state : State) (event : Event) : Prop where
  close : ∀ edge conn, event = .edgeClose edge → state.edgeConns.get? edge = some conn →
    conn.gone = false → ClosesWithOneStream state edge conn
  late : ∀ id lookup route, event = .routeResolved id route →
    state.lookups.get? id = some lookup → state.EdgeGone lookup.edge → ¬ Enters state lookup route

/-- Streams and sessions belong to open edges, and closed edges send nothing. -/
structure Attended (state : State) : Prop where
  closed : ∀ edge conn, state.edgeConns.get? edge = some conn → conn.gone = true →
    conn.framed.destroyed = true
  asked : ∀ id lookup, state.lookups.get? id = some lookup → state.edgeConns.get? lookup.edge ≠ none
  streams : ∀ streamId entry, state.streams.get? streamId = some entry → state.EdgeOpen entry.edge
  sessions : ∀ sessionId entry, state.udpSessions.get? sessionId = some entry →
    state.EdgeOpen entry.edge

theorem attended_initial : Attended initial where
  closed _ _ h := by cases h
  asked _ _ h := by cases h
  streams _ _ h := by cases h
  sessions _ _ h := by cases h

/-- The same inside a step: what the close of the event would leave is not there. -/
structure Tidy (event : Event) (state : State) : Prop where
  attended : Attended state
  streams : ∀ streamId entry conn, state.streams.get? streamId = some entry →
    event = .edgeClose entry.edge → state.edgeConns.get? entry.edge = some conn →
    truthy conn.streamId.value = true ∧ streamId = conn.streamId
  sessions : ∀ sessionId entry, state.udpSessions.get? sessionId = some entry →
    event ≠ .edgeClose entry.edge

namespace Tidy

variable {env : Env} {start state next : State} {event : Event}

theorem edgeOpen (hmove : Move env start event state next) {edge : ℕ}
    (hopen : state.EdgeOpen edge) :
    (next.EdgeOpen edge ∧ ∀ conn later, event = .edgeClose edge →
      state.edgeConns.get? edge = some conn → next.edgeConns.get? edge = some later →
      later.streamId = conn.streamId) ∨ ClosesEdge event edge state next := by
  obtain ⟨conn, hconn, hgone⟩ := hopen
  rcases hmove.edge edge with hedge | hcloses
  · left
    unfold EdgeOpen
    rw [hconn] at hedge ⊢
    generalize next.edgeConns.get? edge = later at hedge
    cases hedge with
    | same =>
      refine ⟨⟨conn, rfl, hgone⟩, ?_⟩
      intro _ _ _ hfirst hlater
      cases hfirst
      cases hlater
      rfl
    | @change _ new hid hsame _ =>
      refine ⟨⟨new, rfl, hsame.trans hgone⟩, ?_⟩
      intro _ _ _ hfirst hlater
      cases hfirst
      cases hlater
      exact hid
    | opened streamId hsent =>
      refine ⟨⟨_, rfl, hgone⟩, ?_⟩
      intro _ _ hevent _ _
      obtain ⟨chunk, _, hdata, -⟩ := hsent
      rw [hevent] at hdata
      cases hdata
  · exact .inr hcloses

theorem edgeOpen_of_enters {kind : LookupKind} {edge : ℕ} (hstart : Attended start)
    (hguard : ClosesTidily start event) (hkind : kind = .streamOpen ∨ kind = .udpDatagram)
    (henters : EntersFor start event kind edge next) :
    next.EdgeOpen edge ∧ ∀ other, event ≠ .edgeClose other := by
  obtain ⟨⟨lookup, route, tunnel, target, connection, ⟨id, hevent, hlookup⟩, hlookupKind, rfl,
    hto, hudp⟩, hedges⟩ := henters
  have henter : Enters start lookup route := by
    refine ⟨tunnel, target, connection, hto, ?_⟩
    rw [hlookupKind]
    exact hkind.imp (fun h => h) fun h => ⟨h, hudp h⟩
  obtain ⟨conn, hconn⟩ := Option.ne_none_iff_exists'.1 (hstart.asked id lookup hlookup)
  refine ⟨⟨conn, by rw [hedges, hconn], ?_⟩, fun other hclose => ?_⟩
  · cases hgone : conn.gone with
    | false => rfl
    | true => exact absurd henter (hguard.late id lookup route hevent hlookup ⟨conn, hconn, hgone⟩)
  · rw [hevent] at hclose
    cases hclose

theorem move (h : Tidy event state) (hstart : Attended start) (hguard : ClosesTidily start event)
    (hthere : ∀ edge, start.edgeConns.get? edge ≠ none → state.edgeConns.get? edge ≠ none)
    (hmove : Move env start event state next) : Tidy event next := by
  have hstreamOpen : ∀ {streamId entry}, next.streams.get? streamId = some entry →
      next.EdgeOpen entry.edge ∧ ∀ conn, event = .edgeClose entry.edge →
        next.edgeConns.get? entry.edge = some conn →
        truthy conn.streamId.value = true ∧ streamId = conn.streamId := by
    intro streamId entry hentry
    rcases hmove.stream hentry with hbefore | henters
    · rcases edgeOpen hmove (h.attended.streams _ _ hbefore) with ⟨hopen, hsame⟩ |
        ⟨hevent, conn, hconn, rfl⟩
      · refine ⟨hopen, fun later hevent hlater => ?_⟩
        obtain ⟨conn, hconn, -⟩ := h.attended.streams _ _ hbefore
        have hkey := h.streams _ _ conn hbefore hevent hconn
        rwa [hsame conn later hevent hconn hlater]
      · -- the one stream of the edge goes with it
        obtain ⟨htruthy, hkey⟩ := h.streams _ _ conn hbefore hevent hconn
        unfold State.loseEdge at hentry
        rw [if_pos htruthy, hkey] at hentry
        have hnone := (get?_erase_self state.streams conn.streamId).symm.trans hentry
        cases hnone
    · obtain ⟨hopen, hother⟩ := edgeOpen_of_enters hstart hguard (.inl rfl) henters
      exact ⟨hopen, fun _ hevent => absurd hevent (hother _)⟩
  have hsessionOpen : ∀ {sessionId entry}, next.udpSessions.get? sessionId = some entry →
      next.EdgeOpen entry.edge ∧ event ≠ .edgeClose entry.edge := by
    intro sessionId entry hentry
    rcases hmove.session hentry with hbefore | henters
    · have hother := h.sessions _ _ hbefore
      rcases edgeOpen hmove (h.attended.sessions _ _ hbefore) with ⟨hopen, -⟩ | ⟨hevent, -⟩
      · exact ⟨hopen, hother⟩
      · exact absurd hevent hother
    · obtain ⟨hopen, hother⟩ := edgeOpen_of_enters hstart hguard (.inr rfl) henters
      exact ⟨hopen, hother _⟩
  refine ⟨⟨?_, ?_, fun _ _ hentry => (hstreamOpen hentry).1,
    fun _ _ hentry => (hsessionOpen hentry).1⟩,
    fun _ _ conn hentry => (hstreamOpen hentry).2 conn,
    fun _ _ hentry => (hsessionOpen hentry).2⟩
  · exact fun _ _ => hmove.closed h.attended.closed
  · exact fun _ _ => hmove.asked hthere h.attended.asked

end Tidy

theorem attended_step {state : State} {event : Event} (h : Attended state)
    (hguard : ClosesTidily state event) (halive : ¬ (step env state event).Crashed) :
    Attended (step env state event) := by
  have htick : Attended state.tick := ⟨h.closed, h.asked, h.streams, h.sessions⟩
  have htidy : Tidy event state.tick := by
    refine ⟨htick, fun streamId entry conn hentry hevent hconn => ?_,
      fun sessionId entry hentry hevent => ?_⟩
    · obtain ⟨other, hother, hgone⟩ := h.streams streamId entry hentry
      have hsame : some conn = some other := hconn.symm.trans hother
      cases hsame
      exact (hguard.close entry.edge conn hevent hconn hgone).streams streamId entry hentry rfl
    · obtain ⟨conn, hconn, hgone⟩ := h.sessions sessionId entry hentry
      exact (hguard.close entry.edge conn hevent hconn hgone).sessions sessionId entry hentry rfl
  have hmoves := moves_of_step halive
  generalize step env state event = next at hmoves
  suffices hboth : Tidy event next ∧
      ∀ edge, state.tick.edgeConns.get? edge ≠ none → next.edgeConns.get? edge ≠ none from
    hboth.1.attended
  induction hmoves with
  | refl => exact ⟨htidy, fun _ h => h⟩
  | tail _ hmove ih =>
    have hguardTick : ClosesTidily state.tick event := by
      refine ⟨fun edge conn hevent hconn hgone => ?_, hguard.late⟩
      have hone := hguard.close edge conn hevent hconn hgone
      exact ⟨hone.streams, hone.sessions⟩
    exact ⟨ih.1.move htick hguardTick ih.2 hmove, fun edge h => hmove.edge_ne_none (ih.2 edge h)⟩

theorem TimersKept.running {state : State} (h : TimersKept state) {entry : Entry}
    (hwaits : Waits state entry) : ∃ id, entry.timer = some id ∧ state.timers.get? id ≠ none := by
  obtain ⟨key, hpending | hprobe⟩ := hwaits
  · obtain ⟨id, hid, htimer⟩ := h.pending key entry hpending
    exact ⟨id, hid, by simp [htimer]⟩
  · obtain ⟨id, target, hid, htimer⟩ := h.probes key entry hprobe
    exact ⟨id, hid, by simp [htimer]⟩

def datagramNamed (sessionId : String) : Json :=
  .obj [("type", .str "udp_datagram"), ("sessionId", .str sessionId)]

/-- An active UDP tunnel with a target of the agent. -/
def datagramRoute (agentId : String) : Route where
  tunnel := some ⟨text "active", text "udp"⟩
  target := some ⟨text "t1", agentId, text "localhost", some (.num 53), none⟩

def datagramEnv : Env := .plain [agentHello "a1", datagramNamed "s1"]

def edgeRun : List Event :=
  [.agentConnect 0, .agentData 0 (Codec.wire (agentHello "a1")), .authenticated 0 (.ok "a1"),
    .presenceSettled 0, .edgeConnect 0]

def sessionRun : List Event :=
  edgeRun ++ [.edgeData 0 (Codec.wire (datagramNamed "s1")), .routeResolved 8 (datagramRoute "a1"),
    .edgeClose 0]

end Tunnara.Relay
