/-
# What a step of the Relay can do

Every step that the process survives is a chain of moves: the smallest changes that leave the maps
of the Relay consistent. A move carries what the code has checked and which event is behind it, so
that an invariant of the Relay is one case analysis over the moves and no later module unfolds a
handler. Nothing is said about the state that a step leaves which ends the process.
-/

import Mathlib.Logic.Relation
import Tunnara.Relay.CrashFreedom

namespace Tunnara.Relay

open State Attempt Transition OrdMap

def isAnswer (frame : Json) : Bool := hasType frame "proxy_response" || hasType frame "proxy_error"

namespace State

/-- The edge after a frame was written to it, if anything is still written to it. -/
def told (state : State) (edge : ℕ) (payload : Json) : State :=
  match state.edgeConns.get? edge with
  | none => state
  | some conn =>
    if conn.framed.silent then state
    else state.putEdge edge { conn with framed.sent := conn.framed.sent ++ [payload] }

/-- The edge was not ended, unless nothing is written to it any more. -/
def CanTell (state : State) (edge : ℕ) : Prop :=
  ∀ framed, state.edgeFramed edge = some framed → framed.silent = false → framed.ended = false

end State

variable (env : Env) (start : State) (event : Event)

def Answers (lookup : Lookup) (route : Route) : Prop :=
  ∃ id, event = .routeResolved id route ∧ start.lookups.get? id = some lookup

def SentByAgent (agentId : String) (frame : Json) : Prop :=
  ∃ connection chunk agent, event = .agentData connection chunk ∧
    start.agentConns.get? connection = some agent ∧ agent.agentId = some agentId ∧
    .frame frame ∈ (drain env.codec (agent.framed.buffer ++ chunk)).1

def SentByEdge (edge : ℕ) (frame : Json) : Prop :=
  ∃ chunk conn, event = .edgeData edge chunk ∧ start.edgeConns.get? edge = some conn ∧
    conn.framed.destroyed = false ∧
    .frame frame ∈ (drain env.codec (conn.framed.buffer ++ chunk)).1

/-- A connection of the agent closes. -/
def Disconnects (agentId : String) : Prop :=
  ∃ connection agent, event = .agentClose connection ∧
    start.agentConns.get? connection = some agent ∧ agent.agentId = some agentId

/-- Who may end a stream without the close of its edge. -/
def EndsStream (state : State) (streamId : Key) (entry : Entry) : Prop :=
  (∃ frame, SentByAgent env start event entry.agentId frame ∧ hasType frame "stream_close" ∧
    frame.get? "streamId" = streamId.value) ∨
  Disconnects start event entry.agentId ∨
  ∃ edge frame, SentByEdge env start event edge frame ∧ hasType frame "stream_close" ∧
    state.streamIdOf edge = streamId

/-- The timer of an entry, or the timer that fired and has the entry's key. -/
def Spends (state : State) (entry : Entry) (fired : Timer → Prop) (cleared : Option ℕ) : Prop :=
  cleared = entry.timer ∨ ∃ id timer, event = .timerFired id ∧
    state.timers.get? id = some timer ∧ fired timer ∧ cleared = some id

/-- The Relay takes leave of a connection whose socket has closed. -/
def State.lose (state : State) (connection : ℕ) (agentId : Option String) : State :=
  match agentId with
  | none => state.endAgent connection
  | some agentId => (state.endAgent connection).leave env connection agentId

/-- An edge has closed and takes the stream it last opened with it. -/
def State.loseEdge (state : State) (edge : ℕ) (streamId : Key) : State :=
  if truthy streamId.value then (state.endEdge edge).dropStream streamId else state.endEdge edge

/-- The handshake has not authenticated the agent yet. -/
def AgentConnection.Early (agent : AgentConnection) : Prop :=
  agent.phase = .awaitingHello ∨ agent.phase = .authenticating

/-- One thing a step does. -/
inductive Move : State → State → Prop
  | clock {state : State} : Move state state.tick
  | notes {state : State} (heartbeats : OrdMap ℕ String) (gauges : Gauges) :
      Move state { state with heartbeats, gauges }
  | newAgent {state : State} {connection : ℕ}
      (hnew : state.agentConns.get? connection = none) : Move state (state.putAgent connection {})
  | changeAgent {state : State} {connection : ℕ} {old new : AgentConnection}
      (hold : state.agentConns.get? connection = some old)
      (hid : new.agentId = old.agentId) (hgone : new.gone = old.gone)
      (hearly : new.Early → old.Early) : Move state (state.putAgent connection new)
  | register {state : State} {connection : ℕ} {agentId : String}
      (hevent : event = .authenticated connection (.ok agentId)) :
      Move state (state.register connection agentId)
  | loseAgent {state : State} {connection : ℕ} {agent : AgentConnection}
      (hevent : event = .agentClose connection)
      (hagent : state.agentConns.get? connection = some agent) :
      Move state (state.lose env connection agent.agentId)
  | newEdge {state : State} {edge : ℕ} (hnew : state.edgeConns.get? edge = none) :
      Move state (state.putEdge edge {})
  /-- Nothing is written, and what was ended or silent stays so. -/
  | changeEdge {state : State} {edge : ℕ} {old new : EdgeConnection}
      (hold : state.edgeConns.get? edge = some old) (hid : new.streamId = old.streamId)
      (hgone : new.gone = old.gone) (hsent : new.framed.sent = old.framed.sent)
      (hended : old.framed.ended → new.framed.ended)
      (hsilent : old.framed.silent → new.framed.silent)
      (hdestroyed : old.framed.destroyed → new.framed.destroyed) :
      Move state (state.putEdge edge new)
  | tellEdge {state : State} {edge : ℕ} {payload : Json} (hcan : state.CanTell edge)
      (hquiet : isAnswer payload = false) : Move state (state.told edge payload)
  | refuse {state : State} {lookup : Lookup} {route : Route} {payload : Json}
      (hcan : state.CanTell lookup.edge) (hlookup : Answers start event lookup route)
      (hkind : lookup.kind = .proxyRequest) (hanswer : isAnswer payload = true)
      (hid : payload.get? "requestId" = lookup.frame.get? "requestId") :
      Move state ((state.told lookup.edge payload).closeEdge lookup.edge)
  | loseEdge {state : State} {edge : ℕ} {conn : EdgeConnection} (hevent : event = .edgeClose edge)
      (hconn : state.edgeConns.get? edge = some conn) :
      Move state (state.loseEdge edge conn.streamId)
  | openStream {state : State} {edge : ℕ} {frame : Json}
      (hsent : SentByEdge env start event edge frame) :
      Move state ((state.setStreamId edge
        (Key.of state.clock (frame.get? "streamId"))).awaitRoute .streamOpen edge frame)
  | awaitRoute {state : State} {kind : LookupKind} {edge : ℕ} {frame : Json}
      (hkind : kind ≠ .streamOpen) (hsent : SentByEdge env start event edge frame) :
      Move state (state.awaitRoute kind edge frame)
  | forgetLookup {id : ℕ} {route : Route} (hevent : event = .routeResolved id route) :
      Move start (start.forgetLookup id)
  | addPending {id : ℕ} {lookup : Lookup} {route : Route} {tunnel : Tunnel} {target : Target}
      {connection : ℕ}
      (hevent : event = .routeResolved id route) (hlookup : start.lookups.get? id = some lookup)
      (hkind : lookup.kind = .proxyRequest)
      (hto : connectedTarget start route = some (tunnel, target, connection)) :
      Move start ((start.forgetLookup id).addPending (keyOrFresh env lookup "requestId" start)
        lookup.edge target.agentId connection)
  | addStream {id : ℕ} {lookup : Lookup} {route : Route} {tunnel : Tunnel} {target : Target}
      {connection : ℕ}
      (hevent : event = .routeResolved id route) (hlookup : start.lookups.get? id = some lookup)
      (hkind : lookup.kind = .streamOpen)
      (hto : connectedTarget start route = some (tunnel, target, connection)) :
      Move start ((start.forgetLookup id).addStream
        (Key.of lookup.identity (lookup.frame.get? "streamId")) lookup.edge target.agentId
        connection)
  | addSession {id : ℕ} {lookup : Lookup} {route : Route} {tunnel : Tunnel} {target : Target}
      {connection : ℕ} (sessionId : Key)
      (hevent : event = .routeResolved id route) (hlookup : start.lookups.get? id = some lookup)
      (hkind : lookup.kind = .udpDatagram)
      (hto : connectedTarget start route = some (tunnel, target, connection))
      (hudp : tunnel.protocol = text "udp") :
      Move start ((start.forgetLookup id).addSession sessionId lookup.edge target.agentId connection)
  | addProbe {id : ℕ} {lookup : Lookup} {route : Route} {target : Target} {connection : ℕ}
      (probeId : Key)
      (hevent : event = .routeResolved id route) (hlookup : start.lookups.get? id = some lookup)
      (hkind : lookup.kind = .healthProbe) (htarget : route.target = some target)
      (hconnected : start.agents.get? target.agentId = some connection) :
      Move start ((start.forgetLookup id).addProbe probeId target.id lookup.edge target.agentId
        connection)
  | answer {state : State} {requestId : Key} {entry : Entry} {payload : Json} {cleared : Option ℕ}
      (hentry : state.pending.get? requestId = some entry) (hcan : state.CanTell entry.edge)
      (hanswer : isAnswer payload = true) (hid : payload.get? "requestId" = requestId.value)
      (hcleared : Spends event state entry (· = .proxyRequest requestId) cleared) :
      Move state ((((state.told entry.edge payload).closeEdge entry.edge).clearTimeout
        cleared).dropPending requestId)
  | dropProbe {state : State} {probeId : Key} {entry : Entry} {cleared : Option ℕ}
      (hentry : state.healthProbes.get? probeId = some entry)
      (hcleared : Spends event state entry (fun timer => ∃ id, timer = .healthProbe probeId id)
        cleared) :
      Move state ((state.clearTimeout cleared).dropProbe probeId)
  /-- A timer fires whose entry is gone. -/
  | idleTimer {id : ℕ} {timer : Timer} (hevent : event = .timerFired id)
      (htimer : start.timers.get? id = some timer)
      (hgone : match timer with
        | .proxyRequest requestId => start.pending.get? requestId = none
        | .healthProbe probeId _ => start.healthProbes.get? probeId = none) :
      Move start (start.clearTimeout (some id))
  | dropStream {state : State} {streamId : Key} {entry : Entry}
      (hentry : state.streams.get? streamId = some entry)
      (hends : EndsStream env start event state streamId entry) :
      Move state (state.dropStream streamId)
  | dropSession {state : State} {sessionId : Key} : Move state (state.dropSession sessionId)

/-- If the process survives, a chain of moves leads from one state to the other. -/
structure Reaches (state next : State) : Prop where
  crashed : state.Crashed → next.Crashed
  moves : ¬ next.Crashed → Relation.ReflTransGen (Move env start event) state next

variable {env start event}

theorem Reaches.refl (state : State) : Reaches env start event state state :=
  ⟨id, fun _ => .refl⟩

theorem Reaches.trans {first second third : State} (h : Reaches env start event first second)
    (h' : Reaches env start event second third) : Reaches env start event first third where
  crashed hcrashed := h'.crashed (h.crashed hcrashed)
  moves halive := (h.moves fun hcrashed => halive (h'.crashed hcrashed)).trans (h'.moves halive)

variable {state next : State} {payload frame : Json} {a : Unit} {guard inv : State → Prop}
  {connection : ℕ} {error : JsError} {streamId : Key} {item : Key × Entry} {agent : AgentConnection}
  {chunk : List UInt8}

theorem Move.reaches (h : Move env start event state next)
    (hcrashed : state.Crashed → next.Crashed) : Reaches env start event state next :=
  ⟨hcrashed, fun _ => .single h⟩

theorem reaches_of_crashed (h : next.Crashed) : Reaches env start event state next :=
  ⟨fun _ => h, absurd h⟩

/-! ## Changes of a connection -/

theorem reaches_modifyAgent {state : State} {connection : ℕ}
    {f : AgentConnection → AgentConnection} (hid : ∀ agent, (f agent).agentId = agent.agentId)
    (hgone : ∀ agent, (f agent).gone = agent.gone)
    (hearly : ∀ agent, state.agentConns.get? connection = some agent →
      (f agent).Early → agent.Early) :
    Reaches env start event state (state.modifyAgent connection f) := by
  cases hagent : state.agentConns.get? connection with
  | none =>
    have hsame : state.modifyAgent connection f = state := by
      unfold modifyAgent
      rw [update_of_get?_none hagent]
    rw [hsame]
    exact .refl state
  | some agent =>
    have hput : state.modifyAgent connection f = state.putAgent connection (f agent) := by
      unfold modifyAgent putAgent
      rw [update_of_get?_some hagent]
    rw [hput]
    exact (Move.changeAgent hagent (hid agent) (hgone agent) (hearly agent hagent)).reaches id

theorem reaches_setPhase {state : State} {connection : ℕ} {phase : Phase}
    (hphase : phase = .authenticating → ∀ agent, state.agentConns.get? connection = some agent →
      agent.Early) (hlater : phase ≠ .awaitingHello) :
    Reaches env start event state (state.setPhase connection phase) := by
  refine reaches_modifyAgent (fun _ => rfl) (fun _ => rfl) ?_
  intro agent hagent hearly
  exact hearly.elim (fun h => absurd h hlater) fun h => hphase h agent hagent

variable {connection : ℕ}

theorem reaches_closeAgent : Reaches env start event state (state.closeAgent connection) :=
  reaches_modifyAgent (fun _ => rfl) (fun _ => rfl) fun _ _ => id

theorem reaches_destroyAgent : Reaches env start event state (state.destroyAgent connection) :=
  reaches_modifyAgent (fun _ => rfl) (fun _ => rfl) fun _ _ => id

theorem reaches_clearAuthTimer (state : State) (connection : ℕ) :
    Reaches env start event state (state.clearAuthTimer connection) :=
  reaches_modifyAgent (fun _ => rfl) (fun _ => rfl) fun _ _ => id

theorem reaches_modifyEdge {edge : ℕ} {f : EdgeConnection → EdgeConnection}
    (hid : ∀ conn, (f conn).streamId = conn.streamId) (hgone : ∀ conn, (f conn).gone = conn.gone)
    (hsent : ∀ conn, (f conn).framed.sent = conn.framed.sent)
    (hended : ∀ conn, conn.framed.ended → (f conn).framed.ended)
    (hsilent : ∀ conn, conn.framed.silent → (f conn).framed.silent)
    (hdestroyed : ∀ conn, conn.framed.destroyed → (f conn).framed.destroyed) :
    Reaches env start event state (state.modifyEdge edge f) := by
  cases hconn : state.edgeConns.get? edge with
  | none =>
    have hsame : state.modifyEdge edge f = state := by
      unfold modifyEdge
      rw [update_of_get?_none hconn]
    rw [hsame]
    exact .refl state
  | some conn =>
    have hput : state.modifyEdge edge f = state.putEdge edge (f conn) := by
      unfold modifyEdge putEdge
      rw [update_of_get?_some hconn]
    rw [hput]
    exact (Move.changeEdge hconn (hid conn) (hgone conn) (hsent conn) (hended conn)
      (hsilent conn) (hdestroyed conn)).reaches id

theorem ended_close {connection : FramedConnection} (h : connection.ended) :
    connection.close.ended := by
  unfold FramedConnection.close
  split
  · exact h
  · rfl

theorem sent_close (connection : FramedConnection) : connection.close.sent = connection.sent := by
  unfold FramedConnection.close
  split <;> rfl

theorem silent_close {connection : FramedConnection} :
    connection.close.silent = connection.silent := by
  unfold FramedConnection.close
  split <;> rfl

theorem destroyed_close {connection : FramedConnection} :
    connection.close.destroyed = connection.destroyed := by
  unfold FramedConnection.close
  split <;> rfl

theorem reaches_closeEdge (state : State) (edge : ℕ) :
    Reaches env start event state (state.closeEdge edge) :=
  reaches_modifyEdge (fun _ => rfl) (fun _ => rfl) (fun conn => sent_close conn.framed)
    (fun _ => ended_close) (fun _ h => silent_close.trans h)
    fun _ h => destroyed_close.trans h

theorem reaches_destroyEdge {edge : ℕ} :
    Reaches env start event state (state.destroyEdge edge) := by
  unfold destroyEdge
  cases hconn : state.edgeConns.get? edge with
  | none => exact .refl state
  | some conn =>
    cases hdestroyed : conn.framed.destroyed with
    | false =>
      apply reaches_of_crashed
      simp [crashed_edgeEffect, FramedConnection.destroy, hdestroyed]
    | true =>
      have hput : state.edgeEffect edge conn conn.framed.destroy =
          state.putEdge edge { conn with framed := conn.framed.destroy.connection } := by
        simp [edgeEffect, FramedConnection.destroy, hdestroyed]
      dsimp only
      rw [hput]
      have hmove : Move env start event state
          (state.putEdge edge { conn with framed := conn.framed.destroy.connection }) :=
        .changeEdge hconn rfl rfl rfl id (fun _ => rfl) fun _ => rfl
      exact hmove.reaches id

/-! ## Writing -/

theorem crashed_told {edge : ℕ} : (state.told edge payload).Crashed ↔ state.Crashed := by
  unfold told
  split
  · exact Iff.rfl
  · split <;> exact Iff.rfl

theorem told_of_exec_sendEdge {edge : ℕ}
    (h : exec (sendEdge env edge payload) state = (.ok a, next)) :
    next.Crashed ∨ state.CanTell edge ∧ next = state.told edge payload := by
  rw [exec_sendEdge] at h
  unfold told CanTell edgeFramed
  cases hconn : state.edgeConns.get? edge with
  | none =>
    rw [hconn] at h
    cases h
    exact .inr ⟨by simp, rfl⟩
  | some conn =>
    rw [hconn] at h
    dsimp only at h ⊢
    cases hsend : conn.framed.send env.codec payload with
    | error error =>
      rw [hsend] at h
      cases h
    | ok effect =>
      rw [hsend] at h
      cases h
      rcases FramedConnection.send_cases hsend with ⟨hsilent, rfl⟩ | ⟨-, -, -, rfl⟩ |
        ⟨hsilent, -, hended, rfl⟩
      · have hsame : state.edgeEffect edge conn { connection := conn.framed } = state := by
          change state.putEdge edge conn = state
          unfold putEdge
          rw [set_of_get?_some hconn]
        rw [if_pos hsilent, hsame]
        exact .inr ⟨by simp [hsilent], rfl⟩
      · exact .inl crashed_raise
      · rw [if_neg (by simp [hsilent])]
        exact .inr ⟨by simp [hended], rfl⟩

theorem told_of_exec_answer {edge : ℕ} (after : State → State)
    (hafter : ∀ state, (after state).Crashed ↔ state.Crashed) (h : exec (do
      sendEdge env edge payload
      modify after : Handler) state = (.ok a, next)) :
    next.Crashed ∨ state.CanTell edge ∧ next = after (state.told edge payload) := by
  rw [exec_bind] at h
  cases hsend : exec (sendEdge env edge payload) state with
  | mk result mid =>
    rw [hsend] at h
    cases result with
    | error error => cases h
    | ok b =>
      cases h
      rcases told_of_exec_sendEdge hsend with hcrashed | ⟨hcan, rfl⟩
      · exact .inl ((hafter mid).2 hcrashed)
      · exact .inr ⟨hcan, rfl⟩

theorem crashed_of_guarded {m : Handler} (h : Guarded Crashed m guard)
    (hexec : exec m state = (.ok a, next)) : state.Crashed → next.Crashed := by
  intro hcrashed
  have hfails := (h state).2 (.inl hcrashed)
  unfold Fails at hfails
  rwa [hexec] at hfails

theorem leads_sendEdge {edge : ℕ} (hquiet : isAnswer payload = false) :
    Leads (Reaches env start event) guard (sendEdge env edge payload) := by
  intro state _ a next hexec
  have hmono := crashed_of_guarded (guarded_sendEdge env) hexec
  rcases told_of_exec_sendEdge hexec with hcrashed | ⟨hcan, rfl⟩
  · exact reaches_of_crashed hcrashed
  · exact (Move.tellEdge hcan hquiet).reaches hmono

theorem leads_sendAgent :
    Leads (Reaches env start event) guard (sendAgent env connection payload) := by
  intro state _ a next hexec
  rw [exec_sendAgent] at hexec
  cases hagent : state.agentConns.get? connection with
  | none =>
    rw [hagent] at hexec
    cases hexec
    exact .refl state
  | some agent =>
    rw [hagent] at hexec
    dsimp only at hexec
    cases hsend : agent.framed.send env.codec payload with
    | error error =>
      rw [hsend] at hexec
      cases hexec
    | ok effect =>
      rw [hsend] at hexec
      cases hexec
      have hmove : Move env start event state
          (state.putAgent connection { agent with framed := effect.connection }) :=
        .changeAgent hagent rfl rfl id
      exact hmove.reaches id

theorem unchanged_of_exec_sendAgent
    (h : exec (sendAgent env connection payload) state = (.error error, next)) : next = state := by
  rw [exec_sendAgent] at h
  cases hagent : state.agentConns.get? connection with
  | none =>
    rw [hagent] at h
    cases h
  | some agent =>
    rw [hagent] at h
    dsimp only at h
    cases hsend : agent.framed.send env.codec payload with
    | ok effect =>
      rw [hsend] at h
      cases h
    | error error' =>
      rw [hsend] at h
      cases h
      rfl

theorem leads_sendToAgent {agentId : String} :
    Leads (Reaches env start event) guard (sendToAgent env agentId payload) := by
  refine Leads.get_bind fun read => ?_
  cases read.agents.get? agentId with
  | none => exact leads_pure .refl
  | some connection => exact leads_sendAgent

variable {entry : Option Entry}

theorem leads_forward : Leads (Reaches env start event) guard (forward env entry payload) := by
  cases entry with
  | none => exact leads_pure .refl
  | some entry => exact leads_sendToAgent

theorem reaches_forward (h : exec (forward env entry payload) state = (.ok a, next)) :
    Reaches env start event state next := by
  have hleads : Leads (Reaches env start event) (fun _ => True) (forward env entry payload) :=
    leads_forward
  exact hleads state trivial a next h

theorem leads_turnAway {edge : ℕ} {answer : Json} (hquiet : isAnswer answer = false) :
    Leads (Reaches env start event) guard (turnAway env edge answer) :=
  (leads_sendEdge hquiet).bind .trans fun _ =>
    leads_modify fun state _ => reaches_closeEdge state edge

/-! ## The handshake -/

theorem leads_refuse {error : JsError} :
    Leads (Reaches env start event) guard (refuse env connection error) := by
  have hphase : Leads (Reaches env start event) guard
      (modify fun state => state.setPhase connection .refused : Handler) :=
    leads_modify fun state _ => reaches_setPhase (by simp) (by simp)
  exact hphase.bind .trans fun _ => leads_sendAgent.bind .trans fun _ =>
    leads_modify fun state _ => reaches_closeAgent

theorem leads_onHello {hello : Json} :
    Leads (Reaches env start event)
      (fun state => ∀ agent, state.agentConns.get? connection = some agent → agent.Early)
      (onHello env connection hello) := by
  unfold onHello
  cases helloError hello with
  | some error => exact leads_refuse
  | none => exact leads_modify fun state h => reaches_setPhase (fun _ => h) (by simp)

theorem leads_onAuthenticated {result : Except JsError String}
    (hevent : event = .authenticated connection result) :
    Leads (Reaches env start event) guard (onAuthenticated env connection result) := by
  cases result with
  | error error => exact leads_refuse
  | ok agentId =>
    exact leads_modify fun state _ => (Move.register hevent).reaches crashed_register.2

theorem leads_onPresence {agentId : String} :
    Leads (Reaches env start event) guard (onPresence env connection agentId) := by
  refine Leads.get_bind fun read => ?_
  cases env.presenceError read.clock with
  | some error => exact leads_refuse
  | none =>
    intro state _ a next hexec
    have hgreet : Leads (Reaches env start event) (fun _ => True) (do
        sendAgent env connection (helloOkFrame agentId)
        modify fun state => state.setPhase connection .ready : Handler) :=
      leads_sendAgent.bind .trans fun _ =>
        leads_modify fun state _ => reaches_setPhase (by simp) (by simp)
    have hcatch := exec_tryCatch.symm.trans hexec
    cases hfirst : exec (do
        sendAgent env connection (helloOkFrame agentId)
        modify fun state => state.setPhase connection .ready : Handler) state with
    | mk result mid =>
      rw [hfirst] at hcatch
      cases result with
      | ok b =>
        cases hcatch
        exact hgreet state trivial b _ hfirst
      | error error =>
        have hmid : mid = state := by
          rw [exec_bind] at hfirst
          cases hsend : exec (sendAgent env connection (helloOkFrame agentId)) state with
          | mk sent later =>
            rw [hsend] at hfirst
            cases sent with
            | ok b => cases hfirst
            | error error' =>
              cases hfirst
              exact unchanged_of_exec_sendAgent hsend
        have hrefuse : Leads (Reaches env start event) (fun _ => True)
            (refuse env connection error) := leads_refuse
        rw [hmid] at hcatch
        exact hrefuse state trivial a next hcatch

/-! ## Answers of an agent -/

theorem told_clearTimeout (state : State) (timer : Option ℕ) (edge : ℕ) (payload : Json) :
    (state.clearTimeout timer).told edge payload = (state.told edge payload).clearTimeout timer := by
  cases timer with
  | none => rfl
  | some id =>
    unfold told clearTimeout
    dsimp only
    split
    · rfl
    · split <;> rfl

theorem canTell_clearTimeout {timer : Option ℕ} {edge : ℕ} :
    (state.clearTimeout timer).CanTell edge ↔ state.CanTell edge := by
  cases timer <;> exact Iff.rfl

theorem closeEdge_clearTimeout (state : State) (timer : Option ℕ) (edge : ℕ) :
    (state.clearTimeout timer).closeEdge edge = (state.closeEdge edge).clearTimeout timer := by
  cases timer <;> rfl

theorem reaches_notes {heartbeats : OrdMap ℕ String} {gauges : Gauges} :
    Reaches env start event state { state with heartbeats, gauges } :=
  (Move.notes heartbeats gauges).reaches id

theorem isAnswer_of_hasType {type : String} (h : hasType frame type = true)
    (hresponse : type ≠ "proxy_response") (herror : type ≠ "proxy_error") :
    isAnswer frame = false := by
  unfold isAnswer
  rw [hasType_other h _ hresponse.symm, hasType_other h _ herror.symm]
  rfl

@[simp]
theorem Key.value_of {identity : ℕ} {value : Option Json} :
    (Key.of identity value).value = value := by
  unfold Key.of
  split <;> rfl

theorem reaches_answer {requestId : Key} {entry : Entry} {cleared : Option ℕ}
    (hentry : state.pending.get? requestId = some entry) (hcan : state.CanTell entry.edge)
    (hanswer : isAnswer payload = true) (hid : payload.get? "requestId" = requestId.value)
    (hcleared : Spends event state entry (· = .proxyRequest requestId) cleared) :
    Reaches env start event state ((((state.told entry.edge payload).closeEdge
      entry.edge).clearTimeout cleared).dropPending requestId) := by
  refine (Move.answer hentry hcan hanswer hid hcleared).reaches fun hcrashed => ?_
  exact (crashed_clearTimeout _ _).2 (crashed_told.2 hcrashed)

variable {conn : EdgeConnection}

theorem edge_told {edge : ℕ} (hconn : state.edgeConns.get? edge = some conn) :
    (state.told edge payload).edgeConns.get? edge = some (if conn.framed.silent then conn
      else { conn with framed.sent := conn.framed.sent ++ [payload] }) := by
  unfold told
  rw [hconn]
  dsimp only
  split_ifs
  · exact hconn
  · exact get?_set_self _ _ _

theorem edge_told_of_ne {edge other : ℕ} (hne : other ≠ edge) (payload : Json) :
    (state.told edge payload).edgeConns.get? other = state.edgeConns.get? other := by
  unfold told
  split
  · rfl
  · split_ifs
    · rfl
    · exact get?_set_of_ne _ hne _

section

variable (state : State) (edge : ℕ) (payload : Json)

/-- Writing to an edge changes the connection of the edge only. -/
theorem told_eq : state.told edge payload =
    { state with edgeConns := (state.told edge payload).edgeConns } := by
  unfold told
  split
  · rfl
  · split <;> rfl

@[simp]
theorem agentConns_told : (state.told edge payload).agentConns = state.agentConns := by rw [told_eq]

@[simp]
theorem pending_told : (state.told edge payload).pending = state.pending := by rw [told_eq]

@[simp]
theorem streams_told : (state.told edge payload).streams = state.streams := by rw [told_eq]

@[simp]
theorem udpSessions_told : (state.told edge payload).udpSessions = state.udpSessions := by rw [told_eq]

@[simp]
theorem healthProbes_told : (state.told edge payload).healthProbes = state.healthProbes := by
  rw [told_eq]

@[simp]
theorem timers_told : (state.told edge payload).timers = state.timers := by rw [told_eq]

@[simp]
theorem clock_told : (state.told edge payload).clock = state.clock := by rw [told_eq]

@[simp]
theorem agents_told : (state.told edge payload).agents = state.agents := by rw [told_eq]

@[simp]
theorem presence_told : (state.told edge payload).presence = state.presence := by rw [told_eq]

@[simp]
theorem lookups_told : (state.told edge payload).lookups = state.lookups := by rw [told_eq]

theorem active_told :
    (state.told edge payload).activeProxyRequests = state.activeProxyRequests := by rw [told_eq]

end

theorem reaches_answerProbe {probeId : Key} {entry : Entry} {cleared : Option ℕ}
    (hentry : state.healthProbes.get? probeId = some entry) (hcan : state.CanTell entry.edge)
    (hanswer : isAnswer payload = false)
    (hcleared : Spends event state entry (fun timer => ∃ id, timer = .healthProbe probeId id)
      cleared) :
    Reaches env start event state ((((state.told entry.edge payload).closeEdge
      entry.edge).clearTimeout cleared).dropProbe probeId) := by
  have htold : Reaches env start event state (state.told entry.edge payload) :=
    (Move.tellEdge hcan hanswer).reaches crashed_told.2
  have hclosed : Reaches env start event (state.told entry.edge payload)
      ((state.told entry.edge payload).closeEdge entry.edge) := reaches_closeEdge _ _
  refine (htold.trans hclosed).trans ?_
  have hstill : ((state.told entry.edge payload).closeEdge entry.edge).healthProbes.get? probeId =
      some entry := by
    change (state.told entry.edge payload).healthProbes.get? probeId = some entry
    rw [healthProbes_told, hentry]
  have hspends : Spends event ((state.told entry.edge payload).closeEdge entry.edge) entry
      (fun timer => ∃ id, timer = .healthProbe probeId id) cleared := by
    refine hcleared.imp id fun ⟨id, timer, hevent, htimer, hrest⟩ => ⟨id, timer, hevent, ?_, hrest⟩
    change (state.told entry.edge payload).timers.get? id = some timer
    rw [timers_told, htimer]
  exact (Move.dropProbe hstill hspends).reaches (crashed_clearTimeout _ _).2

/-- A reply is passed on only if the entry it names is the agent's. -/
theorem leads_reply {agentId : String} {guard : State → Prop} {found : Option Entry}
    {reply : Entry → Handler} (hreply : ∀ entry, found = some entry → entry.agentId = agentId →
      Leads (Reaches env start event) guard (reply entry)) :
    Leads (Reaches env start event) guard (match found with
      | none => pure ()
      | some entry => if entry.agentId ≠ agentId then pure () else reply entry) := by
  cases found with
  | none => exact leads_pure .refl
  | some entry =>
    dsimp only
    split_ifs with howner
    · exact leads_pure .refl
    · exact hreply entry rfl (not_not.1 howner)

theorem leads_onProbeResponse {agentId : String}
    (htype : hasType frame "health_probe_response" = true) :
    Leads (Reaches env start event) guard (onProbeResponse env agentId frame) := by
  refine Leads.get_bind fun read => leads_reply fun entry hentry _ => ?_
  rintro state ⟨-, rfl⟩ a next hexec
  rw [exec_bind, exec_modify] at hexec
  rcases told_of_exec_answer (fun state => (state.closeEdge entry.edge).dropProbe
    (Key.of read.clock (frame.get? "probeId"))) (fun _ => Iff.rfl) hexec with
    hcrashed | ⟨hcan, rfl⟩
  · exact reaches_of_crashed hcrashed
  · rw [told_clearTimeout, closeEdge_clearTimeout]
    exact reaches_answerProbe hentry (canTell_clearTimeout.1 hcan)
      (isAnswer_of_hasType htype (by decide) (by decide)) (.inl rfl)

theorem leads_onProxyResponse {agentId : String} (htype : isAnswer frame = true) :
    Leads (Reaches env start event) guard (onProxyResponse env agentId frame) := by
  refine Leads.get_bind fun read => leads_reply fun entry hentry _ => ?_
  rintro state ⟨-, rfl⟩ a next hexec
  rw [exec_bind, exec_modify] at hexec
  rcases told_of_exec_answer (fun state => ((state.closeEdge entry.edge).dropPending
    (Key.of read.clock (frame.get? "requestId"))).setPendingGauge) (fun _ => Iff.rfl) hexec
    with hcrashed | ⟨hcan, rfl⟩
  · exact reaches_of_crashed hcrashed
  · rw [told_clearTimeout, closeEdge_clearTimeout]
    refine (reaches_answer hentry (canTell_clearTimeout.1 hcan) htype
      Key.value_of.symm (.inl rfl)).trans ?_
    exact reaches_notes

theorem leads_onStreamReply {agentId : String} (hsent : SentByAgent env start event agentId frame)
    (htype : isAnswer frame = false) :
    Leads (Reaches env start event) guard (onStreamReply env agentId frame) := by
  refine Leads.get_bind fun read => leads_reply fun entry hentry hagent => ?_
  rintro state ⟨-, rfl⟩ a next hexec
  rcases told_of_exec_answer (fun state => if hasType frame "stream_close" then
    ((state.closeEdge entry.edge).dropStream
      (Key.of read.clock (frame.get? "streamId"))).setStreamsGauge else state)
    (fun state => by split <;> rfl) hexec with hcrashed | ⟨hcan, rfl⟩
  · exact reaches_of_crashed hcrashed
  have htold : Reaches env start event read (read.told entry.edge frame) :=
    (Move.tellEdge hcan htype).reaches crashed_told.2
  refine htold.trans ?_
  split_ifs with hclose
  · have hclosed : Reaches env start event (read.told entry.edge frame)
        ((read.told entry.edge frame).closeEdge entry.edge) := reaches_closeEdge _ _
    refine hclosed.trans ?_
    have hstill : ((read.told entry.edge frame).closeEdge entry.edge).streams.get?
        (Key.of read.clock (frame.get? "streamId")) = some entry := by
      change (read.told entry.edge frame).streams.get? _ = some entry
      rw [streams_told, hentry]
    refine ((Move.dropStream hstill (.inl ⟨frame, hagent ▸ hsent, hclose,
      Key.value_of.symm⟩)).reaches id).trans ?_
    exact reaches_notes
  · exact .refl _

theorem leads_onUdpReply {agentId : String} (htype : isAnswer frame = false) :
    Leads (Reaches env start event) guard (onUdpReply env agentId frame) := by
  refine Leads.get_bind fun read => leads_reply fun entry _ _ =>
    (leads_sendEdge htype).bind .trans fun _ => leads_modify fun state _ => ?_
  split_ifs
  · exact Move.dropSession.reaches id
  · exact .refl state

theorem leads_onHeartbeat {agentId : String} :
    Leads (Reaches env start event) guard (onHeartbeat env agentId) := by
  refine Leads.get_bind fun read => ?_
  split_ifs
  · exact leads_modify fun state _ => reaches_notes
  · cases env.store read.clock with
    | some error => exact leads_throw
    | none => exact leads_sendToAgent

theorem leads_onHeartbeatSettled {agentId : String} :
    Leads (Reaches env start event) guard (onHeartbeatSettled env agentId) :=
  Leads.get_bind fun _ => leads_sendToAgent

theorem leads_onAgentFrame {agentId : String} (hsent : SentByAgent env start event agentId frame) :
    Leads (Reaches env start event) guard (onAgentFrame env agentId frame) := by
  by_cases hnull : frame = .null
  · subst hnull
    exact leads_throw
  rw [onAgentFrame_of_ne_null env hnull, dispatchAgentFrame]
  split_ifs with hheartbeat hprobe hproxy hstream hudp
  · exact leads_onHeartbeat
  · exact leads_onProbeResponse hprobe
  · exact leads_onProxyResponse hproxy
  · have htype : isAnswer frame = false := by
      simp only [Bool.or_eq_true] at hstream
      rcases hstream with (h | h) | h <;> exact isAnswer_of_hasType h (by decide) (by decide)
    exact leads_onStreamReply hsent htype
  · have htype : isAnswer frame = false := by
      simp only [Bool.or_eq_true] at hudp
      rcases hudp with h | h <;> exact isAnswer_of_hasType h (by decide) (by decide)
    exact leads_onUdpReply htype
  · exact leads_pure .refl

/-! ## Frames of an edge -/

theorem leads_onEdgeUdpClose {frame : Json} :
    Leads (Reaches env start event) guard (onEdgeUdpClose env frame) :=
  Leads.get_bind fun _ => leads_forward.bind .trans fun _ =>
    leads_modify fun _ _ => Move.dropSession.reaches id

theorem unchanged_of_exec_forward (h : exec (forward env entry payload) state = (.ok a, next)) :
    next.streams = state.streams ∧ next.edgeConns = state.edgeConns := by
  cases entry with
  | none =>
    cases h
    exact ⟨rfl, rfl⟩
  | some entry =>
    simp only [forward, sendToAgent, exec_bind, exec_get] at h
    cases hconnection : state.agents.get? entry.agentId with
    | none =>
      rw [hconnection] at h
      cases h
      exact ⟨rfl, rfl⟩
    | some connection =>
      rw [hconnection] at h
      rw [exec_sendAgent] at h
      cases hagent : state.agentConns.get? connection with
      | none =>
        rw [hagent] at h
        cases h
        exact ⟨rfl, rfl⟩
      | some agent =>
        rw [hagent] at h
        dsimp only at h
        cases hsend : agent.framed.send env.codec payload with
        | error error =>
          rw [hsend] at h
          cases h
        | ok effect =>
          rw [hsend] at h
          cases h
          exact ⟨rfl, rfl⟩

theorem dropStream_of_none (h : state.streams.get? streamId = none) :
    state.dropStream streamId = state := by
  unfold dropStream
  rw [erase_of_get?_none h]

theorem reaches_dropStream (h : ∀ entry, state.streams.get? streamId = some entry →
      EndsStream env start event state streamId entry) :
    Reaches env start event state (state.dropStream streamId) := by
  cases hentry : state.streams.get? streamId with
  | none =>
    rw [dropStream_of_none hentry]
    exact .refl state
  | some entry => exact (Move.dropStream hentry (h entry hentry)).reaches id

section

variable {edge : ℕ} (hsent : SentByEdge env start event edge frame)
include hsent

theorem leads_onEdgeStream :
    Leads (Reaches env start event) (fun state => state.streamIdOf edge = streamId)
      (onEdgeStream env streamId frame) := by
  refine Leads.get_bind fun read => ?_
  rintro state ⟨hstreamId, rfl⟩ a next hexec
  rw [exec_bind] at hexec
  cases hforward : exec (forward env (read.streams.get? streamId) frame) read with
  | mk result mid =>
    rw [hforward] at hexec
    cases result with
    | error error => cases hexec
    | ok b =>
      cases hexec
      have hmid : Reaches env start event read mid :=
        reaches_forward hforward
      obtain ⟨-, hedges⟩ := unchanged_of_exec_forward hforward
      have hstill : mid.streamIdOf edge = streamId := by
        rw [← hstreamId]
        unfold streamIdOf
        rw [hedges]
      refine hmid.trans ?_
      split_ifs with hclose
      · exact reaches_dropStream fun entry _ => .inr (.inr ⟨edge, frame, hsent, hclose, hstill⟩)
      · exact .refl mid

theorem leads_dispatchEdgeFrame :
    Leads (Reaches env start event) (fun _ => True) (dispatchEdgeFrame env edge frame) := by
  have hawait : ∀ kind, kind ≠ .streamOpen → ∀ state,
      Reaches env start event state (state.awaitRoute kind edge frame) := fun kind hkind state =>
    (Move.awaitRoute hkind hsent).reaches id
  refine Leads.get_bind fun read => ?_
  split_ifs
  · exact leads_modify fun state _ => hawait _ (by decide) state
  · exact leads_modify fun state _ => (Move.openStream hsent).reaches id
  · exact leads_modify fun state _ => hawait _ (by decide) state
  · exact leads_modify fun state _ => hawait _ (by decide) state
  · exact leads_onEdgeUdpClose
  · refine (leads_onEdgeStream hsent).mono ?_
    rintro state ⟨-, rfl⟩
    rfl
  · exact leads_pure .refl

theorem leads_onEdgeFrame :
    Leads (Reaches env start event) (fun _ => True) (onEdgeFrame env edge frame) := by
  by_cases hnull : frame = .null
  · subst hnull
    exact leads_throw
  · rw [onEdgeFrame_of_ne_null env hnull]
    exact leads_dispatchEdgeFrame hsent

end

theorem unchanged_of_throw_forward
    (h : exec (forward env entry payload) state = (.error error, next)) : next = state := by
  cases entry with
  | none => cases h
  | some entry =>
    simp only [forward, sendToAgent, exec_bind, exec_get] at h
    cases hconnection : state.agents.get? entry.agentId with
    | none =>
      rw [hconnection] at h
      cases h
    | some connection =>
      rw [hconnection] at h
      exact unchanged_of_exec_sendAgent h

theorem unchanged_of_throw_onEdgeFrame {edge : ℕ}
    (h : exec (onEdgeFrame env edge frame) state = (.error error, next)) : next = state := by
  -- the two handlers that send do so before they change anything
  have hsends : ∀ (entry : Option Entry) (after : State → State),
      exec (do
        forward env entry frame
        modify after : Handler) state = (.error error, next) → next = state := by
    intro entry after hexec
    rw [exec_bind] at hexec
    cases hforward : exec (forward env entry frame) state with
    | mk result mid =>
      rw [hforward] at hexec
      cases result with
      | ok b => cases hexec
      | error error' =>
        cases hexec
        exact unchanged_of_throw_forward hforward
  by_cases hnull : frame = .null
  · subst hnull
    cases h
    rfl
  rw [onEdgeFrame_of_ne_null env hnull, dispatchEdgeFrame, exec_bind, exec_get] at h
  dsimp only at h
  split_ifs at h
  · cases h
  · cases h
  · cases h
  · cases h
  · rw [onEdgeUdpClose, exec_bind, exec_get] at h
    exact hsends _ _ h
  · rw [onEdgeStream, exec_bind, exec_get] at h
    exact hsends _ _ h
  · cases h

/-! ## Closing connections -/

@[simp]
theorem isAnswer_proxyErrorFrame (requestId : Option Json) (status : ℕ) (message : String) :
    isAnswer (proxyErrorFrame requestId status message) = true := by
  cases requestId <;> rfl

@[simp]
theorem requestId_proxyErrorFrame (requestId : Option Json) (status : ℕ) (message : String) :
    (proxyErrorFrame requestId status message).get? "requestId" = requestId := by
  cases requestId <;> rfl

@[simp]
theorem isAnswer_streamCloseFrame {streamId : Option Json} {reason : String} :
    isAnswer (streamCloseFrame streamId reason) = false := by
  cases streamId <;> rfl

@[simp]
theorem isAnswer_udpCloseFrame {sessionId : Option Json} {reason : String} :
    isAnswer (udpCloseFrame sessionId reason) = false := by
  cases sessionId <;> rfl

@[simp]
theorem isAnswer_probeFailedFrame {probeId targetId : Option Json} {error : String} :
    isAnswer (probeFailedFrame probeId targetId error) = false := by
  cases probeId <;> cases targetId <;> rfl

def StillIn (entries : State → OrdMap Key Entry) (item : Key × Entry) (state : State) : Prop :=
  ¬ state.Crashed → (entries state).get? item.1 = some item.2

theorem leads_failPending (agentId : String) (item : Key × Entry) :
    Leads (Reaches env start event) (StillIn pending item) (failPending env agentId item) := by
  intro state hstill a next hexec
  have hmono := crashed_of_guarded (guarded_failPending env agentId item) hexec
  by_cases hcrashed : state.Crashed
  · exact reaches_of_crashed (hmono hcrashed)
  unfold failPending at hexec
  split_ifs at hexec with hagent
  · rcases told_of_exec_answer (fun state =>
      ((state.closeEdge item.2.edge).clearTimeout item.2.timer).dropPending item.1)
      (fun _ => crashed_clearTimeout _ _) hexec with hbad | ⟨hcan, rfl⟩
    · exact reaches_of_crashed hbad
    · exact reaches_answer (hstill hcrashed) hcan (isAnswer_proxyErrorFrame _ _ _)
        (requestId_proxyErrorFrame _ _ _) (.inl rfl)
  · cases hexec
    exact .refl state

/-- What an answer leaves of the tables. -/
theorem tables_answered {edge : ℕ} {cleared : Option ℕ} {key : Key} :
    let closed := (state.told edge payload).closeEdge edge
    let next := (closed.clearTimeout cleared).dropPending key
    next.edgeConns = closed.edgeConns ∧ next.streams = state.streams ∧
      next.udpSessions = state.udpSessions ∧ next.lookups = state.lookups ∧
      next.pending = state.pending.erase key := by
  cases cleared <;>
    exact ⟨rfl, streams_told _ _ _, udpSessions_told _ _ _, lookups_told _ _ _,
      congrArg (OrdMap.erase · key) (pending_told _ _ _)⟩

theorem stillIn_failPending {agentId : String} {other : Key × Entry} (hne : other.1 ≠ item.1)
    (hexec : exec (failPending env agentId item) state = (.ok a, next))
    (h : StillIn pending other state) : StillIn pending other next := by
  intro halive
  have hmono := crashed_of_guarded (guarded_failPending env agentId item) hexec
  have hstill := h fun hcrashed => halive (hmono hcrashed)
  unfold failPending at hexec
  split_ifs at hexec
  · rcases told_of_exec_answer (fun state =>
      ((state.closeEdge item.2.edge).clearTimeout item.2.timer).dropPending item.1)
      (fun _ => crashed_clearTimeout _ _) hexec with hbad | ⟨-, rfl⟩
    · exact absurd hbad halive
    · refine (congrArg (OrdMap.get? · other.1) tables_answered.2.2.2.2).trans ?_
      exact (get?_erase_of_ne _ hne).trans hstill
  · cases hexec
    exact hstill

theorem leads_failStream {agentId : String} (hcloses : Disconnects start event agentId)
    (item : Key × Entry) :
    Leads (Reaches env start event) (StillIn streams item) (failStream env agentId item) := by
  intro state hstill a next hexec
  have hmono := crashed_of_guarded (guarded_failStream env agentId item) hexec
  by_cases hcrashed : state.Crashed
  · exact reaches_of_crashed (hmono hcrashed)
  unfold failStream at hexec
  split_ifs at hexec with hagent
  · rcases told_of_exec_answer (fun state => (state.closeEdge item.2.edge).dropStream item.1)
      (fun _ => Iff.rfl) hexec with hbad | ⟨hcan, rfl⟩
    · exact reaches_of_crashed hbad
    · have htold : Reaches env start event state (state.told item.2.edge
          (streamCloseFrame item.1.value "agent_disconnected")) :=
        (Move.tellEdge hcan isAnswer_streamCloseFrame).reaches crashed_told.2
      refine (htold.trans (reaches_closeEdge _ item.2.edge)).trans ?_
      refine reaches_dropStream fun entry hentry => .inr (.inl ?_)
      have hfound : (state.told item.2.edge (streamCloseFrame item.1.value
          "agent_disconnected")).streams.get? item.1 = some entry := hentry
      rw [streams_told, hstill hcrashed] at hfound
      cases hfound
      exact hagent ▸ hcloses
  · cases hexec
    exact .refl state

theorem stillIn_failStream {agentId : String} {other : Key × Entry} (hne : other.1 ≠ item.1)
    (hexec : exec (failStream env agentId item) state = (.ok a, next))
    (h : StillIn streams other state) : StillIn streams other next := by
  intro halive
  have hmono := crashed_of_guarded (guarded_failStream env agentId item) hexec
  have hstill := h fun hcrashed => halive (hmono hcrashed)
  unfold failStream at hexec
  split_ifs at hexec
  · rcases told_of_exec_answer (fun state => (state.closeEdge item.2.edge).dropStream item.1)
      (fun _ => Iff.rfl) hexec with hbad | ⟨-, rfl⟩
    · exact absurd hbad halive
    · have hstreams : (((state.told item.2.edge (streamCloseFrame item.1.value
          "agent_disconnected")).closeEdge item.2.edge).dropStream item.1).streams =
          state.streams.erase item.1 := by
        rw [← streams_told state item.2.edge]
        rfl
      rw [hstreams, get?_erase_of_ne _ hne]
      exact hstill
  · cases hexec
    exact hstill

theorem leads_failSession {agentId : String} {item : Key × Entry} :
    Leads (Reaches env start event) guard (failSession env agentId item) := by
  unfold failSession
  split_ifs
  · exact (leads_sendEdge isAnswer_udpCloseFrame).bind .trans fun _ =>
      leads_modify fun _ _ => Move.dropSession.reaches id
  · exact leads_pure .refl

theorem entries_edgeEffect (state : State) (edge : ℕ) (conn : EdgeConnection) (effect : Effect) :
    (state.edgeEffect edge conn effect).pending = state.pending ∧
      (state.edgeEffect edge conn effect).streams = state.streams ∧
      (state.edgeEffect edge conn effect).udpSessions = state.udpSessions ∧
      (state.edgeEffect edge conn effect).presence = state.presence := by
  unfold edgeEffect
  split <;> exact ⟨rfl, rfl, rfl, rfl⟩

theorem keeps_turn (env : Env) {agentId : String} {after : State → State}
    (htold : item.2.agentId = agentId → ∀ state conn effect, inv state →
      inv (state.edgeEffect item.2.edge conn effect))
    (hafter : item.2.agentId = agentId → ∀ state, inv state → inv (after state)) :
    Keeps inv (fun _ => True) (if item.2.agentId = agentId then do
      sendEdge env item.2.edge payload
      modify after
    else pure ()) := by
  split_ifs with hagent
  · have hsend : Keeps inv (fun _ => True) (sendEdge env item.2.edge payload) :=
      keeps_sendEdge env fun state conn effect h _ _ _ => htold hagent state conn effect h
    exact hsend.bind fun _ => keeps_modify fun state h _ => hafter hagent state h
  · exact keeps_pure

/-- The body of the `'close'` listener for a connection that is not the current one. -/
def failEntries (env : Env) (agentId : String) (state : State) : Handler := do
  state.pending.entries.forM (failPending env agentId)
  state.streams.entries.forM (failStream env agentId)
  state.udpSessions.entries.forM (failSession env agentId)

theorem streams_failPending (env : Env) (agentId : String) (entries : OrdMap Key Entry)
    (items : List (Key × Entry)) :
    Keeps (fun state => state.streams = entries) (fun _ => True)
      (items.forM (failPending env agentId)) := by
  refine Keeps.forM fun item _ => ?_
  apply keeps_turn
  · intro _ state conn effect h
    rwa [(entries_edgeEffect state _ conn effect).2.1]
  · intro _ state h
    cases item.2.timer <;> exact h

theorem pairwise_entries {entries : OrdMap Key Entry} :
    entries.entries.Pairwise fun item other => other.1 ≠ item.1 :=
  (List.pairwise_map.1 entries.nodup).imp fun hne => hne.symm

theorem leads_failEntries {agentId : String} (hcloses : Disconnects start event agentId)
    (before : State) :
    Leads (Reaches env start event)
      (fun state => state.pending = before.pending ∧ state.streams = before.streams)
      (failEntries env agentId before) := by
  rintro state ⟨hpending, hstreams⟩ a last hexec
  unfold failEntries at hexec
  rw [exec_bind] at hexec
  have hpendingLoop : Leads (Reaches env start event)
      (fun state => ∀ item ∈ before.pending.entries, StillIn pending item state)
      (before.pending.entries.forM (failPending env agentId)) :=
    Leads.forM_undisturbed .refl .trans (leads_failPending agentId)
      (pairwise_entries.imp fun hne state next a hexec h => stillIn_failPending hne hexec h)
  have hstreamLoop : Leads (Reaches env start event)
      (fun state => ∀ item ∈ before.streams.entries, StillIn streams item state)
      (before.streams.entries.forM (failStream env agentId)) :=
    Leads.forM_undisturbed .refl .trans (leads_failStream hcloses)
      (pairwise_entries.imp fun hne state next a hexec h => stillIn_failStream hne hexec h)
  cases hfirst : exec (before.pending.entries.forM (failPending env agentId)) state with
  | mk result mid =>
    rw [hfirst] at hexec
    cases result with
    | error error => cases hexec
    | ok b =>
      have hreached : Reaches env start event state mid := by
        refine hpendingLoop state ?_ b mid hfirst
        intro item hitem _
        rw [hpending]
        exact get?_eq_some_iff.2 hitem
      have hmid : mid.streams = before.streams := by
        have hkeeps := streams_failPending env agentId before.streams
          before.pending.entries state hstreams trivial
        rwa [hfirst] at hkeeps
      refine hreached.trans ?_
      have hrest : Leads (Reaches env start event)
          (fun state => ∀ item ∈ before.streams.entries, StillIn streams item state) (do
          before.streams.entries.forM (failStream env agentId)
          before.udpSessions.entries.forM (failSession env agentId) : Handler) :=
        hstreamLoop.bind .trans fun _ => Leads.forM .refl .trans fun item _ => leads_failSession
      refine hrest mid ?_ a last hexec
      intro item hitem _
      rw [hmid]
      exact get?_eq_some_iff.2 hitem

/-! ## How a handler ends -/

theorem reaches_voidAsync {handler : Handler} (h : Leads (Reaches env start event) guard handler)
    (hguard : guard state) : Reaches env start event state (voidAsync handler state) := by
  unfold voidAsync
  cases hexec : exec handler state with
  | mk result next =>
    cases result with
    | ok a => exact h state hguard a next hexec
    | error error => exact reaches_of_crashed crashed_raise

theorem reaches_voidAsync_always {handler : Handler}
    (h : Leads (Reaches env start event) (fun _ => True) handler) :
    Reaches env start event state (voidAsync handler state) :=
  reaches_voidAsync h trivial

theorem reaches_frameListener {edge : ℕ} (hsent : SentByEdge env start event edge frame) :
    Reaches env start event state (frameListener edge (onEdgeFrame env edge frame) state) := by
  unfold frameListener
  cases hexec : exec (onEdgeFrame env edge frame) state with
  | mk result next =>
    cases result with
    | ok a => exact leads_onEdgeFrame hsent state trivial a next hexec
    | error error =>
      rw [unchanged_of_throw_onEdgeFrame hexec]
      exact reaches_destroyEdge

/-! ## The close of an agent's connection -/

theorem reaches_lose (hevent : event = .agentClose connection)
    (hagent : state.agentConns.get? connection = some agent) :
    Reaches env start event state (state.lose env connection agent.agentId) := by
  refine (Move.loseAgent hevent hagent).reaches fun hcrashed => ?_
  cases agent.agentId with
  | none => exact hcrashed
  | some id => exact (crashed_leave env).2 (.inl hcrashed)

theorem reaches_agentClose (hevent : event = .agentClose connection)
    (hagent : start.agentConns.get? connection = some agent) :
    Reaches env start event start
      (callback (onAgentClose env connection agent.agentId) (start.endAgent connection)) := by
  have hlose : Reaches env start event start (start.lose env connection agent.agentId) :=
    reaches_lose hevent hagent
  unfold callback
  cases hid : agent.agentId with
  | none =>
    rw [hid] at hlose
    exact hlose
  | some id =>
    rw [hid] at hlose
    have hfail : exec (onAgentClose env connection (some id)) (start.endAgent connection) =
        exec (failEntries env id (start.lose env connection (some id)))
          (start.lose env connection (some id)) := by
      rw [onAgentClose, exec_bind, exec_modify]
      rfl
    rw [hfail]
    cases hexec : exec (failEntries env id (start.lose env connection (some id)))
        (start.lose env connection (some id)) with
    | mk result next =>
      cases result with
      | error error => exact reaches_of_crashed crashed_raise
      | ok a =>
        have hcloses : Disconnects start event id := ⟨connection, agent, hevent, hagent, hid⟩
        exact hlose.trans (leads_failEntries hcloses _ _ ⟨rfl, rfl⟩ a next hexec)

/-! ## The close of an edge -/

theorem exec_forward_endEdge (state : State) (edge : ℕ) (entry : Option Entry) (payload : Json) :
    exec (forward env entry payload) (state.endEdge edge) =
      ((exec (forward env entry payload) state).1,
        (exec (forward env entry payload) state).2.endEdge edge) := by
  cases entry with
  | none => rfl
  | some entry =>
    simp only [forward, sendToAgent, exec_bind, exec_get]
    have hagents : (state.endEdge edge).agents = state.agents := rfl
    rw [hagents]
    cases state.agents.get? entry.agentId with
    | none => rfl
    | some connection =>
      rw [exec_sendAgent, exec_sendAgent]
      have hconns : (state.endEdge edge).agentConns = state.agentConns := rfl
      rw [hconns]
      cases state.agentConns.get? connection with
      | none => rfl
      | some agent =>
        dsimp only
        cases agent.framed.send env.codec payload with
        | error error | ok effect => rfl

theorem reaches_edgeClose {edge : ℕ} (hevent : event = .edgeClose edge)
    (hconn : start.edgeConns.get? edge = some conn) :
    Reaches env start event start
      (callback (onEdgeClose env conn.streamId) (start.endEdge edge)) := by
  have hlose : ∀ state, state.edgeConns.get? edge = some conn →
      Reaches env start event state (state.loseEdge edge conn.streamId) := by
    intro state hstill
    refine (Move.loseEdge hevent hstill).reaches fun hcrashed => ?_
    unfold loseEdge
    split <;> exact hcrashed
  unfold onEdgeClose
  by_cases hid : truthy conn.streamId.value = true
  · rw [if_pos hid]
    unfold callback
    rw [exec_bind, exec_get]
    dsimp only
    rw [exec_bind, exec_forward_endEdge]
    have hstreams : (start.endEdge edge).streams = start.streams := rfl
    rw [hstreams]
    cases hforward : exec (forward env (start.streams.get? conn.streamId)
        (streamCloseFrame conn.streamId.value "edge_closed")) start with
    | mk result mid =>
      cases result with
      | error error => exact reaches_of_crashed crashed_raise
      | ok a =>
        have hmid : Reaches env start event start mid :=
          reaches_forward hforward
        have hstill : mid.edgeConns.get? edge = some conn := by
          rw [(unchanged_of_exec_forward hforward).2, hconn]
        have hend := hlose mid hstill
        unfold loseEdge at hend
        rw [if_pos hid] at hend
        exact hmid.trans hend
  · rw [if_neg hid]
    have hend := hlose start hconn
    unfold loseEdge at hend
    rw [if_neg hid] at hend
    exact hend

/-! ## Timers -/

theorem reaches_timer {id : ℕ} {timer : Timer} (hevent : event = .timerFired id)
    (htimer : start.timers.get? id = some timer) :
    Reaches env start event start
      (callback (onTimer env timer) (start.clearTimeout (some id))) := by
  unfold callback
  cases timer with
  | proxyRequest requestId =>
    rw [onTimer, exec_bind, exec_get]
    have hpending : (start.clearTimeout (some id)).pending = start.pending := rfl
    dsimp only
    rw [hpending]
    cases hentry : start.pending.get? requestId with
    | none => exact (Move.idleTimer hevent htimer hentry).reaches fun h => h
    | some entry =>
      cases hexec : exec (do
          sendEdge env entry.edge
            (proxyErrorFrame requestId.value 504 "Tempo limite do upstream.")
          modify fun state =>
            ((state.closeEdge entry.edge).dropPending requestId).setPendingGauge : Handler)
          (start.clearTimeout (some id)) with
      | mk result next =>
        cases result with
        | error error => exact reaches_of_crashed crashed_raise
        | ok a =>
          rcases told_of_exec_answer (fun state =>
            ((state.closeEdge entry.edge).dropPending requestId).setPendingGauge)
            (fun _ => Iff.rfl) hexec with hcrashed | ⟨hcan, rfl⟩
          · exact reaches_of_crashed hcrashed
          · rw [told_clearTimeout, closeEdge_clearTimeout]
            have hanswer := isAnswer_proxyErrorFrame requestId.value 504
              "Tempo limite do upstream."
            refine Reaches.trans (reaches_answer hentry
              (canTell_clearTimeout.1 hcan) hanswer
              (requestId_proxyErrorFrame _ _ _)
              (.inr ⟨id, _, hevent, htimer, rfl, rfl⟩)) ?_
            exact reaches_notes
  | healthProbe probeId targetId =>
    rw [onTimer, exec_bind, exec_get]
    have hprobes : (start.clearTimeout (some id)).healthProbes = start.healthProbes := rfl
    dsimp only
    rw [hprobes]
    cases hentry : start.healthProbes.get? probeId with
    | none => exact (Move.idleTimer hevent htimer hentry).reaches fun h => h
    | some entry =>
      dsimp only
      cases hexec : exec (do
          sendEdge env entry.edge (probeFailedFrame probeId.value targetId "timeout")
          modify fun state => (state.closeEdge entry.edge).dropProbe probeId : Handler)
          (start.clearTimeout (some id)) with
      | mk result next =>
        cases result with
        | error error => exact reaches_of_crashed crashed_raise
        | ok a =>
          rcases told_of_exec_answer (fun state =>
            (state.closeEdge entry.edge).dropProbe probeId)
            (fun _ => Iff.rfl) hexec with hcrashed | ⟨hcan, rfl⟩
          · exact reaches_of_crashed hcrashed
          · rw [told_clearTimeout, closeEdge_clearTimeout]
            exact reaches_answerProbe hentry (canTell_clearTimeout.1 hcan)
              isAnswer_probeFailedFrame
              (.inr ⟨id, _, hevent, htimer, ⟨targetId, rfl⟩, rfl⟩)

/-! ## Routes -/

theorem reaches_forgetLookup {id : ℕ} {route : Route} (hevent : event = .routeResolved id route) :
    Reaches env start event start (start.forgetLookup id) :=
  (Move.forgetLookup hevent).reaches fun h => h

section Routes

variable {id : ℕ} {lookup : Lookup} {route : Route}
  (hevent : event = .routeResolved id route) (hlookup : start.lookups.get? id = some lookup)

include hevent hlookup

omit hevent hlookup in
theorem proxyRequest_cases (hexec : exec (proxyRequest env lookup route) state = (.ok a, next)) :
    next.Crashed ∨
    (∃ status message, state.CanTell lookup.edge ∧ next = (state.told lookup.edge
      (proxyErrorFrame (lookup.frame.get? "requestId") status message)).closeEdge lookup.edge) ∨
    ∃ tunnel target connection, connectedTarget state route = some (tunnel, target, connection) ∧
      tunnel.status = text "active" ∧
      exec (sendAgent env connection (proxyRequestFrame lookup.frame
        (keyOrFresh env lookup "requestId" state) target tunnel))
        (state.addPending (keyOrFresh env lookup "requestId" state) lookup.edge target.agentId
          connection) = (.ok a, next) := by
  have hrefused : ∀ status message, exec (turnAway env lookup.edge (proxyErrorFrame
      (lookup.frame.get? "requestId") status message)) state = (.ok a, next) →
      next.Crashed ∨ ∃ status message, state.CanTell lookup.edge ∧ next = (state.told lookup.edge
        (proxyErrorFrame (lookup.frame.get? "requestId") status message)).closeEdge lookup.edge := by
    intro status message hturn
    rcases told_of_exec_answer (fun state => state.closeEdge lookup.edge) (fun _ => Iff.rfl) hturn
      with hcrashed | ⟨hcan, rfl⟩
    · exact .inl hcrashed
    · exact .inr ⟨status, message, hcan, rfl⟩
  rw [← or_assoc]
  rw [proxyRequest, exec_bind, exec_get] at hexec
  cases htunnel : route.tunnel with
  | none =>
    rw [htunnel] at hexec
    exact .inl (hrefused _ _ hexec)
  | some tunnel =>
    rw [htunnel] at hexec
    cases htarget : route.target with
    | none =>
      rw [htarget] at hexec
      exact .inl (hrefused _ _ hexec)
    | some target =>
      rw [htarget] at hexec
      dsimp only at hexec
      split_ifs at hexec with hstatus
      · exact .inl (hrefused _ _ hexec)
      · cases hconnected : state.agents.get? target.agentId with
        | none =>
          rw [hconnected] at hexec
          exact .inl (hrefused _ _ hexec)
        | some connection =>
          rw [hconnected] at hexec
          rw [exec_bind, exec_modify] at hexec
          have hto : connectedTarget state route = some (tunnel, target, connection) := by
            simp [connectedTarget, htunnel, htarget, hconnected]
          exact .inr ⟨tunnel, target, connection, hto, not_not.1 hstatus, hexec⟩

theorem reaches_proxyRequest (hkind : lookup.kind = .proxyRequest)
    (hexec : exec (proxyRequest env lookup route) (start.forgetLookup id) = (.ok a, next)) :
    Reaches env start event start next := by
  rcases proxyRequest_cases hexec with hcrashed | ⟨status, message, hcan, rfl⟩ |
    ⟨tunnel, target, connection, hto, -, hsend⟩
  · exact reaches_of_crashed hcrashed
  · refine (reaches_forgetLookup hevent).trans ?_
    exact (Move.refuse hcan ⟨id, hevent, hlookup⟩ hkind (isAnswer_proxyErrorFrame _ _ _)
      (requestId_proxyErrorFrame _ _ _)).reaches crashed_told.2
  · have hleads : Leads (Reaches env start event) (fun _ => True) (sendAgent env connection
        (proxyRequestFrame lookup.frame (keyOrFresh env lookup "requestId"
          (start.forgetLookup id)) target tunnel)) := leads_sendAgent
    refine Reaches.trans ((Move.addPending hevent hlookup hkind hto).reaches fun h => h) ?_
    exact hleads _ trivial a next hsend

omit hevent hlookup in
theorem streamOpen_cases (hexec : exec (streamOpen env lookup route) state = (.ok a, next)) :
    next.Crashed ∨
    (connectedTarget state route = none ∧ state.CanTell lookup.edge ∧
      next = (state.told lookup.edge (streamCloseFrame (lookup.frame.get? "streamId")
        (unavailable route))).closeEdge lookup.edge) ∨
    ∃ tunnel target connection, connectedTarget state route = some (tunnel, target, connection) ∧
      exec (sendAgent env connection (streamOpenFrame lookup.frame target tunnel))
        (state.addStream (Key.of lookup.identity (lookup.frame.get? "streamId")) lookup.edge
          target.agentId connection) = (.ok a, next) := by
  rw [streamOpen, exec_bind, exec_get] at hexec
  dsimp only at hexec
  cases hfound : connectedTarget state route with
  | none =>
    rw [hfound] at hexec
    rcases told_of_exec_answer (fun state => state.closeEdge lookup.edge) (fun _ => Iff.rfl) hexec
      with hcrashed | ⟨hcan, rfl⟩
    · exact .inl hcrashed
    · exact .inr (.inl ⟨rfl, hcan, rfl⟩)
  | some found =>
    obtain ⟨tunnel, target, connection⟩ := found
    rw [hfound] at hexec
    rw [exec_bind, exec_modify] at hexec
    exact .inr (.inr ⟨tunnel, target, connection, rfl, hexec⟩)

theorem reaches_streamOpen (hkind : lookup.kind = .streamOpen)
    (hexec : exec (streamOpen env lookup route) (start.forgetLookup id) = (.ok a, next)) :
    Reaches env start event start next := by
  rcases streamOpen_cases hexec with hcrashed | ⟨-, hcan, rfl⟩ |
    ⟨tunnel, target, connection, hto, hsend⟩
  · exact reaches_of_crashed hcrashed
  · refine (reaches_forgetLookup hevent).trans (Reaches.trans ?_ (reaches_closeEdge _ _))
    exact (Move.tellEdge hcan isAnswer_streamCloseFrame).reaches crashed_told.2
  · have hleads : Leads (Reaches env start event) (fun _ => True) (sendAgent env
        connection (streamOpenFrame lookup.frame target tunnel)) := leads_sendAgent
    refine Reaches.trans ((Move.addStream hevent hlookup hkind hto).reaches fun h => h) ?_
    exact hleads _ trivial a next hsend

def datagramTarget (state : State) (route : Route) : Option (Tunnel × Target × ℕ) :=
  (connectedTarget state route).filter fun found => found.1.protocol = text "udp"

omit hevent hlookup in
theorem udpDatagram_cases (hexec : exec (udpDatagram env lookup route) state = (.ok a, next)) :
    next.Crashed ∨
    (datagramTarget state route = none ∧ state.CanTell lookup.edge ∧
      next = state.told lookup.edge (udpCloseFrame (lookup.frame.get? "sessionId")
        (unavailable route))) ∨
    ∃ tunnel target connection sessionId,
      datagramTarget state route = some (tunnel, target, connection) ∧
      exec (sendAgent env connection (udpDatagramFrame lookup.frame sessionId target))
        (state.addSession (Key.text sessionId) lookup.edge target.agentId connection) =
        (.ok a, next) := by
  rw [udpDatagram, exec_bind, exec_get] at hexec
  dsimp only at hexec
  rw [← datagramTarget] at hexec
  cases hfound : datagramTarget state route with
  | none =>
    rw [hfound] at hexec
    rcases told_of_exec_sendEdge hexec with hcrashed | ⟨hcan, rfl⟩
    · exact .inl hcrashed
    · exact .inr (.inl ⟨rfl, hcan, rfl⟩)
  | some found =>
    obtain ⟨tunnel, target, connection⟩ := found
    rw [hfound] at hexec
    cases hsession : sessionText env lookup state with
    | error error =>
      rw [hsession] at hexec
      cases hexec
    | ok sessionId =>
      rw [hsession] at hexec
      rw [exec_bind, exec_modify] at hexec
      exact .inr (.inr ⟨tunnel, target, connection, sessionId, rfl, hexec⟩)

theorem reaches_udpDatagram (hkind : lookup.kind = .udpDatagram)
    (hexec : exec (udpDatagram env lookup route) (start.forgetLookup id) = (.ok a, next)) :
    Reaches env start event start next := by
  rcases udpDatagram_cases hexec with hcrashed | ⟨-, hcan, rfl⟩ |
    ⟨tunnel, target, connection, sessionId, hto, hsend⟩
  · exact reaches_of_crashed hcrashed
  · refine (reaches_forgetLookup hevent).trans ?_
    exact (Move.tellEdge hcan isAnswer_udpCloseFrame).reaches crashed_told.2
  · obtain ⟨hconnected, hudp⟩ := Option.filter_eq_some_iff.1 hto
    have hleads : Leads (Reaches env start event) (fun _ => True) (sendAgent env
        connection (udpDatagramFrame lookup.frame sessionId target)) := leads_sendAgent
    refine Reaches.trans ((Move.addSession (Key.text sessionId) hevent hlookup hkind
      hconnected (of_decide_eq_true hudp)).reaches fun h => h) ?_
    exact hleads _ trivial a next hsend

theorem reaches_healthProbe (hkind : lookup.kind = .healthProbe)
    (hexec : exec (healthProbe env lookup route) (start.forgetLookup id) = (.ok a, next)) :
    Reaches env start event start next := by
  rw [healthProbe, exec_bind, exec_get] at hexec
  dsimp only at hexec
  cases hfound : route.target.bind fun target =>
      ((start.forgetLookup id).agents.get? target.agentId).map fun connection =>
        (target, connection) with
  | none =>
    rw [hfound] at hexec
    have hleads : Leads (Reaches env start event) (fun _ => True) (turnAway env lookup.edge
        (probeFailedFrame (lookup.frame.get? "probeId") (lookup.frame.get? "targetId")
          "target_unavailable")) :=
      leads_turnAway isAnswer_probeFailedFrame
    exact (reaches_forgetLookup hevent).trans (hleads _ trivial a next hexec)
  | some found =>
    obtain ⟨target, connection⟩ := found
    rw [hfound] at hexec
    obtain ⟨chosen, htarget, hmap⟩ := Option.bind_eq_some_iff.1 hfound
    obtain ⟨found, hagent, hpair⟩ := Option.map_eq_some_iff.1 hmap
    cases hpair
    cases htimeout : probeTimeout env lookup with
    | error error =>
      rw [htimeout] at hexec
      cases hexec
    | ok timeout =>
      rw [htimeout] at hexec
      rw [exec_bind, exec_modify] at hexec
      have hsend : Leads (Reaches env start event) (fun _ => True) (sendAgent env
          connection (healthProbeFrame lookup.frame (keyOrFresh env lookup "probeId"
            (start.forgetLookup id)) target (timeout.max 250))) := leads_sendAgent
      refine Reaches.trans ((Move.addProbe (keyOrFresh env lookup
        "probeId" (start.forgetLookup id)) hevent hlookup hkind htarget hagent).reaches
        fun h => h) ?_
      exact hsend _ trivial a next hexec

theorem reaches_route :
    Reaches env start event start (voidAsync (onRoute env lookup route) (start.forgetLookup id)) := by
  unfold voidAsync
  cases hexec : exec (onRoute env lookup route) (start.forgetLookup id) with
  | mk result next =>
    cases result with
    | error error => exact reaches_of_crashed crashed_raise
    | ok a =>
      unfold onRoute at hexec
      cases hkind : lookup.kind with
      | proxyRequest =>
        rw [hkind] at hexec
        exact reaches_proxyRequest hevent hlookup hkind hexec
      | streamOpen =>
        rw [hkind] at hexec
        exact reaches_streamOpen hevent hlookup hkind hexec
      | udpDatagram =>
        rw [hkind] at hexec
        exact reaches_udpDatagram hevent hlookup hkind hexec
      | healthProbe =>
        rw [hkind] at hexec
        exact reaches_healthProbe hevent hlookup hkind hexec

end Routes

/-! ## Data -/

theorem agentConns_clearTimeout {timer : Option ℕ} :
    (state.clearTimeout timer).agentConns = state.agentConns := by
  cases timer <;> rfl

theorem agentConns_loseEdge {edge : ℕ} {streamId : Key} :
    (state.loseEdge edge streamId).agentConns = state.agentConns := by
  unfold loseEdge
  split <;> rfl

theorem agentConns_lose (state : State) (connection : ℕ) (agentId : Option String) :
    (state.lose env connection agentId).agentConns = (state.endAgent connection).agentConns := by
  unfold lose leave goOffline
  cases agentId with
  | none => rfl
  | some id =>
    dsimp only
    split
    · split <;> rfl
    · rfl

theorem agentId_modifyAgent (f : AgentConnection → AgentConnection)
    (h : ∀ agent, (f agent).agentId = agent.agentId) (state : State) (connection other : ℕ) :
    ((state.modifyAgent connection f).agentConns.get? other).map AgentConnection.agentId =
      (state.agentConns.get? other).map AgentConnection.agentId :=
  map_get?_update h other

theorem Move.agentId (h : Move env start event state next)
    (hevent : ∀ connection agentId, event ≠ .authenticated connection (.ok agentId))
    (hagent : state.agentConns.get? connection = some agent) :
    ∃ later, next.agentConns.get? connection = some later ∧ later.agentId = agent.agentId := by
  have hsame : ∀ {next : State}, next.agentConns = state.agentConns →
      ∃ later, next.agentConns.get? connection = some later ∧ later.agentId = agent.agentId := by
    intro next hconns
    exact ⟨agent, by rw [hconns, hagent], rfl⟩
  cases h with
  | @newAgent _ other hnew =>
    refine ⟨agent, ?_, rfl⟩
    have hne : connection ≠ other := by
      rintro rfl
      rw [hagent] at hnew
      cases hnew
    exact (get?_set_of_ne _ hne _).trans hagent
  | @changeAgent _ other old new hold hid hgone _ =>
    by_cases heq : connection = other
    · subst heq
      rw [hagent] at hold
      cases hold
      exact ⟨new, get?_set_self _ _ _, hid⟩
    · exact ⟨agent, (get?_set_of_ne _ heq _).trans hagent, rfl⟩
  | register hregister => exact absurd hregister (hevent _ _)
  | @loseAgent _ other _ _ _ =>
    rw [agentConns_lose]
    have hmap : ((state.endAgent other).agentConns.get? connection).map
        AgentConnection.agentId = (state.agentConns.get? connection).map
        AgentConnection.agentId :=
      agentId_modifyAgent (fun agent => { agent with
        gone := true, authTimer := false, framed.closed := true, framed.destroyed := true })
        (fun _ => rfl) state other connection
    rw [hagent] at hmap
    exact Option.map_eq_some_iff.1 hmap
  | tellEdge | refuse => exact hsame (agentConns_told _ _ _)
  | loseEdge => exact hsame agentConns_loseEdge
  | answer => exact hsame (agentConns_clearTimeout.trans (agentConns_told _ _ _))
  | dropProbe => exact hsame agentConns_clearTimeout
  | _ => exact hsame rfl

/-- The connection belongs to the agent it belonged to, if the process is still there. -/
def StillOf (connection : ℕ) (agentId : Option String) (state : State) : Prop :=
  ¬ state.Crashed → ∃ agent, state.agentConns.get? connection = some agent ∧ agent.agentId = agentId

theorem Reaches.stillOf (h : Reaches env start event state next)
    (hevent : ∀ connection agentId, event ≠ .authenticated connection (.ok agentId))
    {agentId : Option String} (hstill : StillOf connection agentId state) :
    StillOf connection agentId next := by
  intro halive
  have hmoves := h.moves halive
  have hbefore := hstill fun hcrashed => halive (h.crashed hcrashed)
  clear h hstill halive
  induction hmoves with
  | refl => exact hbefore
  | tail _ hmove ih =>
    obtain ⟨agent, hagent, hid⟩ := ih
    obtain ⟨later, hlater, hsame⟩ := hmove.agentId hevent hagent
    exact ⟨later, hlater, hsame.trans hid⟩

theorem reaches_run {handler : State → Signal → State} {signals : List Signal}
    (hstep : ∀ signal ∈ signals, ∀ state, inv state →
      Reaches env start event state (handler state signal) ∧ inv (handler state signal))
    (hinv : inv state) : Reaches env start event state (run handler state signals) := by
  induction signals generalizing state with
  | nil => exact .refl state
  | cons signal rest ih =>
    obtain ⟨hfirst, hnext⟩ := hstep signal List.mem_cons_self state hinv
    rw [run_cons]
    exact hfirst.trans (ih (fun other hother => hstep other (List.mem_cons_of_mem _ hother)) hnext)

theorem reaches_tick : Reaches env start event state state.tick :=
  Move.clock.reaches id

theorem reaches_agentSignal (hevent : event = .agentData connection chunk)
    (hagent : start.agentConns.get? connection = some agent) {signal : Signal}
    (hsignal : signal ∈ (drain env.codec (agent.framed.buffer ++ chunk)).1)
    (hstill : StillOf connection agent.agentId state) :
    Reaches env start event state (agentSignal env connection state signal) := by
  by_cases hcrashed : state.Crashed
  · exact reaches_of_crashed ((crashed_agentSignal env connection state signal).2 (.inl hcrashed))
  obtain ⟨current, hcurrent, hid⟩ := hstill hcrashed
  refine reaches_tick.trans ?_
  unfold agentSignal
  cases signal with
  | invalidLength | malformed => exact reaches_destroyAgent
  | frame value =>
    have hfound : state.tick.agentConns.get? connection = some current := hcurrent
    dsimp only
    rw [hfound]
    dsimp only
    cases hphase : current.phase with
    | awaitingHello =>
      refine (reaches_clearAuthTimer _ connection).trans ?_
      refine reaches_voidAsync leads_onHello ?_
      intro agent hagent
      have hcleared : (state.tick.clearAuthTimer connection).agentConns.get? connection =
          some { current with authTimer := false } := by
        refine (get?_update_self _ _ _).trans ?_
        rw [hfound]
        rfl
      rw [hcleared] at hagent
      cases hagent
      exact .inl hphase
    | ready =>
      cases howner : current.agentId with
      | none => exact .refl _
      | some agentId =>
        have hsent : SentByAgent env start event agentId value :=
          ⟨connection, chunk, agent, hevent, hagent, hid.symm.trans howner, hsignal⟩
        exact reaches_voidAsync_always (leads_onAgentFrame hsent)
    | _ => exact .refl _

theorem reaches_agentData (hevent : event = .agentData connection chunk)
    (hagent : start.agentConns.get? connection = some agent) (rest : List UInt8) :
    Reaches env start event start (run (agentSignal env connection)
      (start.keepAgentBytes connection rest)
      (drain env.codec (agent.framed.buffer ++ chunk)).1) := by
  have hother : ∀ connection agentId, event ≠ .authenticated connection (.ok agentId) := by
    intro connection agentId heq
    rw [hevent] at heq
    cases heq
  have hkeep : Reaches env start event start (start.keepAgentBytes connection rest) :=
    reaches_modifyAgent (fun _ => rfl) (fun _ => rfl) fun _ _ => id
  have hstill : StillOf connection agent.agentId start := fun _ => ⟨agent, hagent, rfl⟩
  refine hkeep.trans (reaches_run (fun signal hsignal state hinv => ?_)
    (hkeep.stillOf hother hstill))
  have hstep := reaches_agentSignal hevent hagent hsignal hinv
  exact ⟨hstep, hstep.stillOf hother hinv⟩

theorem reaches_edgeData {edge : ℕ} (hevent : event = .edgeData edge chunk)
    (hconn : start.edgeConns.get? edge = some conn) (hopen : conn.framed.destroyed = false)
    (rest : List UInt8) :
    Reaches env start event start (run (edgeSignal env edge) (start.keepEdgeBytes edge rest)
      (drain env.codec (conn.framed.buffer ++ chunk)).1) := by
  have hkeep : Reaches env start event start (start.keepEdgeBytes edge rest) :=
    reaches_modifyEdge (fun _ => rfl) (fun _ => rfl) (fun _ => rfl) (fun _ => id)
      (fun _ => id) fun _ => id
  have hsignals : ∀ signal ∈ (drain env.codec (conn.framed.buffer ++ chunk)).1, ∀ state, True →
      Reaches env start event state (edgeSignal env edge state signal) ∧ True := by
    intro signal hsignal state _
    refine ⟨reaches_tick.trans ?_, trivial⟩
    cases signal with
    | invalidLength | malformed => exact reaches_destroyEdge
    | frame value => exact reaches_frameListener ⟨chunk, conn, hevent, hconn, hopen, hsignal⟩
  exact hkeep.trans (reaches_run hsignals trivial)

/-! ## The step -/

theorem reaches_withAgent {enabled : AgentConnection → Bool} {f : AgentConnection → State}
    (h : ∀ agent, state.agentConns.get? connection = some agent → enabled agent = true →
      Reaches env start event state (f agent)) :
    Reaches env start event state (withAgent state connection enabled f) := by
  unfold withAgent
  cases hagent : state.agentConns.get? connection with
  | none => exact .refl state
  | some agent =>
    cases henabled : enabled agent with
    | false => simpa [henabled] using Reaches.refl state
    | true => simpa [henabled] using h agent hagent henabled

theorem reaches_withEdge {edge : ℕ} {enabled : EdgeConnection → Bool} {f : EdgeConnection → State}
    (h : ∀ conn, state.edgeConns.get? edge = some conn → enabled conn = true →
      Reaches env start event state (f conn)) :
    Reaches env start event state (withEdge state edge enabled f) := by
  unfold withEdge
  cases hconn : state.edgeConns.get? edge with
  | none => exact .refl state
  | some conn =>
    cases henabled : enabled conn with
    | false => simpa [henabled] using Reaches.refl state
    | true => simpa [henabled] using h conn hconn henabled

theorem reaches_handle {env : Env} {event : Event} :
    Reaches env state event state (handle env state event) := by
  cases event with
  | agentConnect connection =>
    rw [handle]
    split_ifs with hnew
    · exact .refl state
    · exact (Move.newAgent (by simpa using hnew)).reaches id
  | edgeConnect edge =>
    rw [handle]
    split_ifs with hnew
    · exact .refl state
    · exact (Move.newEdge (by simpa using hnew)).reaches id
  | agentData connection chunk =>
    exact reaches_withAgent fun agent hagent _ => reaches_agentData rfl hagent _
  | edgeData edge chunk =>
    refine reaches_withEdge fun conn hconn hopen => reaches_edgeData rfl hconn ?_ _
    simpa using hopen
  | agentEnd connection =>
    exact reaches_withAgent fun _ _ _ =>
      reaches_modifyAgent (fun _ => rfl) (fun _ => rfl) fun _ _ => id
  | edgeEnd edge =>
    exact reaches_withEdge fun _ _ _ => reaches_modifyEdge (fun _ => rfl)
      (fun _ => rfl) (fun _ => rfl) (fun _ _ => rfl) (fun _ => id) fun _ => id
  | agentError connection =>
    exact reaches_withAgent fun _ _ _ =>
      reaches_modifyAgent (fun _ => rfl) (fun _ => rfl) fun _ _ => id
  | edgeError edge =>
    exact reaches_withEdge fun _ _ _ => reaches_of_crashed crashed_raise
  | agentClose connection =>
    exact reaches_withAgent fun _ hagent _ => reaches_agentClose rfl hagent
  | edgeClose edge => exact reaches_withEdge fun _ hconn _ => reaches_edgeClose rfl hconn
  | authTimeout connection =>
    exact reaches_withAgent fun _ _ _ =>
      (reaches_clearAuthTimer state connection).trans reaches_destroyAgent
  | authenticated connection result =>
    exact reaches_withAgent fun _ _ _ => reaches_voidAsync_always (leads_onAuthenticated rfl)
  | presenceSettled connection =>
    refine reaches_withAgent fun agent _ _ => ?_
    cases agent.agentId with
    | none => exact .refl state
    | some agentId => exact reaches_voidAsync_always leads_onPresence
  | routeResolved id route =>
    rw [handle]
    cases hlookup : state.lookups.get? id with
    | none => exact .refl state
    | some lookup => exact reaches_route rfl hlookup
  | heartbeatSettled id =>
    rw [handle]
    cases state.heartbeats.get? id with
    | none => exact .refl state
    | some agentId =>
      exact reaches_notes.trans (reaches_voidAsync_always leads_onHeartbeatSettled)
  | timerFired id =>
    rw [handle]
    cases htimer : state.timers.get? id with
    | none => exact .refl state
    | some timer => exact reaches_timer rfl htimer

theorem moves_of_step {env : Env} {event : Event} (halive : ¬ (step env state event).Crashed) :
    Relation.ReflTransGen (Move env state.tick event) state.tick (step env state event) := by
  unfold step at halive ⊢
  split_ifs at halive ⊢ with hcrashed
  · exact absurd hcrashed halive
  · exact reaches_handle.moves halive

/-! ## What agents do not touch -/

/-- The edges, their entries and what they wait for are as they were. -/
structure State.SameTraffic (state next : State) : Prop where
  edges : next.edgeConns = state.edgeConns
  pending : next.pending = state.pending
  streams : next.streams = state.streams
  sessions : next.udpSessions = state.udpSessions
  probes : next.healthProbes = state.healthProbes
  active : next.activeProxyRequests = state.activeProxyRequests
  timers : next.timers = state.timers
  lookups : next.lookups = state.lookups
  clock : next.clock = state.clock

theorem sameTraffic_register (state : State) (connection : ℕ) (agentId : String) :
    state.SameTraffic (state.register connection agentId) := by
  unfold State.register
  dsimp only
  split <;> exact ⟨rfl, rfl, rfl, rfl, rfl, rfl, rfl, rfl, rfl⟩

theorem sameTraffic_lose (env : Env) (state : State) (connection : ℕ) (agentId : Option String) :
    state.SameTraffic (state.lose env connection agentId) := by
  unfold State.lose leave goOffline
  split
  · exact ⟨rfl, rfl, rfl, rfl, rfl, rfl, rfl, rfl, rfl⟩
  · dsimp only
    split
    · split <;> exact ⟨rfl, rfl, rfl, rfl, rfl, rfl, rfl, rfl, rfl⟩
    · exact ⟨rfl, rfl, rfl, rfl, rfl, rfl, rfl, rfl, rfl⟩

theorem sameTraffic_of_exec_sendAgent
    (hexec : exec (sendAgent env connection payload) state = (.ok a, next)) :
    state.SameTraffic next := by
  rw [exec_sendAgent] at hexec
  cases hagent : state.agentConns.get? connection with
  | none =>
    rw [hagent] at hexec
    cases hexec
    exact ⟨rfl, rfl, rfl, rfl, rfl, rfl, rfl, rfl, rfl⟩
  | some agent =>
    rw [hagent] at hexec
    dsimp only at hexec
    cases hsend : agent.framed.send env.codec payload with
    | error error =>
      rw [hsend] at hexec
      cases hexec
    | ok effect =>
      rw [hsend] at hexec
      cases hexec
      exact ⟨rfl, rfl, rfl, rfl, rfl, rfl, rfl, rfl, rfl⟩

/-! ## The edges -/

inductive EdgeMove (env : Env) (start : State) (event : Event) (edge : ℕ) :
    Option EdgeConnection → Option EdgeConnection → Prop
  | same {conn : Option EdgeConnection} : EdgeMove env start event edge conn conn
  | new : EdgeMove env start event edge none (some {})
  | change {old new : EdgeConnection} (hid : new.streamId = old.streamId)
      (hgone : new.gone = old.gone) (hdestroyed : old.framed.destroyed → new.framed.destroyed) :
      EdgeMove env start event edge (some old) (some new)
  | opened {conn : EdgeConnection} {frame : Json} (streamId : Key)
      (hsent : SentByEdge env start event edge frame) :
      EdgeMove env start event edge (some conn) (some { conn with streamId })

theorem edgeMove_putEdge {edge other : ℕ} {new : EdgeConnection}
    (h : EdgeMove env start event edge (state.edgeConns.get? edge) (some new)) :
    EdgeMove env start event other (state.edgeConns.get? other)
      ((state.putEdge edge new).edgeConns.get? other) := by
  by_cases heq : other = edge
  · subst heq
    rwa [putEdge, get?_set_self]
  · rw [putEdge, get?_set_of_ne _ heq]
    exact .same

/-- What telling an edge something and ending it leave as it is. -/
def EdgeConnection.standing (conn : EdgeConnection) : Key × Bool × Bool :=
  (conn.streamId, conn.gone, conn.framed.destroyed)

theorem edgeMove_of_standing {edge : ℕ} {conn later : Option EdgeConnection}
    (h : later.map EdgeConnection.standing = conn.map EdgeConnection.standing) :
    EdgeMove env start event edge conn later := by
  cases conn with
  | none =>
    rw [Option.map_eq_none_iff.1 h]
    exact .same
  | some old =>
    obtain ⟨new, rfl, hsame⟩ := Option.map_eq_some_iff.1 h
    refine .change (congrArg Prod.fst hsame)
      (congrArg (fun standing => standing.2.1) hsame) fun hdestroyed => ?_
    exact (congrArg (fun standing => standing.2.2) hsame).trans hdestroyed

theorem standing_told {edge : ℕ} {other : ℕ} :
    ((state.told edge payload).edgeConns.get? other).map EdgeConnection.standing =
      (state.edgeConns.get? other).map EdgeConnection.standing := by
  unfold told
  cases hconn : state.edgeConns.get? edge with
  | none => rfl
  | some conn =>
    dsimp only
    split_ifs
    · rfl
    · rw [putEdge, get?_set]
      split_ifs with heq
      · rw [heq, hconn]
        rfl
      · rfl

theorem standing_closeEdge (state : State) (edge other : ℕ) :
    ((state.closeEdge edge).edgeConns.get? other).map EdgeConnection.standing =
      (state.edgeConns.get? other).map EdgeConnection.standing := by
  have hkeeps : ∀ conn : EdgeConnection,
      ({ conn with framed := conn.framed.close } : EdgeConnection).standing = conn.standing := by
    intro conn
    unfold EdgeConnection.standing
    rw [destroyed_close]
  exact map_get?_update hkeeps other

def ClosesEdge (event : Event) (edge : ℕ) (state next : State) : Prop :=
  event = .edgeClose edge ∧ ∃ conn, state.edgeConns.get? edge = some conn ∧
    next = state.loseEdge edge conn.streamId

theorem edgeConns_loseEdge (state : State) (edge : ℕ) (streamId : Key) :
    (state.loseEdge edge streamId).edgeConns = (state.endEdge edge).edgeConns := by
  unfold State.loseEdge
  split <;> rfl

theorem Move.edge (h : Move env start event state next) (edge : ℕ) :
    EdgeMove env start event edge (state.edgeConns.get? edge) (next.edgeConns.get? edge) ∨
      ClosesEdge event edge state next := by
  cases h with
  | register =>
    rw [(sameTraffic_register _ _ _).edges]
    exact .inl .same
  | loseAgent =>
    rw [(sameTraffic_lose _ _ _ _).edges]
    exact .inl .same
  | newEdge hnew =>
    left
    apply edgeMove_putEdge
    rw [hnew]
    exact .new
  | changeEdge hold hid hgone hsent hended hsilent hdestroyed =>
    left
    apply edgeMove_putEdge
    rw [hold]
    exact .change hid hgone hdestroyed
  | tellEdge => exact .inl (edgeMove_of_standing standing_told)
  | refuse =>
    left
    apply edgeMove_of_standing
    rw [standing_closeEdge, standing_told]
  | @loseEdge _ other conn hevent hconn =>
    by_cases heq : edge = other
    · subst heq
      exact .inr ⟨hevent, conn, hconn, rfl⟩
    · left
      rw [edgeConns_loseEdge, endEdge, modifyEdge, get?_update_of_ne _ heq]
      exact .same
  | @openStream _ other frame hsent =>
    left
    change EdgeMove env start event edge _ ((state.setStreamId other
      (Key.of state.clock (frame.get? "streamId"))).edgeConns.get? edge)
    unfold setStreamId modifyEdge
    by_cases heq : edge = other
    · subst heq
      rw [get?_update_self]
      cases state.edgeConns.get? edge with
      | none => exact .same
      | some conn => exact .opened _ hsent
    · rw [get?_update_of_ne _ heq]
      exact .same
  | answer =>
    left
    apply edgeMove_of_standing
    rw [tables_answered.1, standing_closeEdge, standing_told]
  | @dropProbe _ _ _ cleared => cases cleared <;> exact .inl .same
  | _ => exact .inl .same

theorem Move.edge_ne_none (h : Move env start event state next) {edge : ℕ}
    (hedge : state.edgeConns.get? edge ≠ none) : next.edgeConns.get? edge ≠ none := by
  rcases h.edge edge with hmove | ⟨-, conn, hconn, rfl⟩
  · generalize state.edgeConns.get? edge = before at hmove hedge
    generalize next.edgeConns.get? edge = later at hmove
    cases hmove with
    | same => exact hedge
    | _ => exact Option.some_ne_none _
  · rw [edgeConns_loseEdge, endEdge, modifyEdge, update_of_get?_some hconn, get?_set_self]
    exact Option.some_ne_none _

/-! ## Where the entries come from -/

structure EntersFor (start : State) (event : Event) (kind : LookupKind) (edge : ℕ) (next : State) :
    Prop where
  answered : ∃ lookup route tunnel target connection, Answers start event lookup route ∧
    lookup.kind = kind ∧ lookup.edge = edge ∧
    connectedTarget start route = some (tunnel, target, connection) ∧
    (kind = .udpDatagram → tunnel.protocol = text "udp")
  edges : next.edgeConns = start.edgeConns

theorem entersFor_of_set {kind : LookupKind} {entries : OrdMap Key Entry} {key other : Key}
    {added entry : Entry} (hset : (entries.set key added).get? other = some entry)
    (h : EntersFor start event kind added.edge next) :
    entries.get? other = some entry ∨ EntersFor start event kind entry.edge next := by
  rw [get?_set] at hset
  split_ifs at hset
  · cases hset
    exact .inr h
  · exact .inl hset

section

variable (h : Move env start event state next)
include h

theorem Move.stream {entry : Entry} (hentry : next.streams.get? streamId = some entry) :
    state.streams.get? streamId = some entry ∨
      EntersFor start event .streamOpen entry.edge next := by
  cases h with
  | register =>
    rw [(sameTraffic_register _ _ _).streams] at hentry
    exact .inl hentry
  | loseAgent =>
    rw [(sameTraffic_lose _ _ _ _).streams] at hentry
    exact .inl hentry
  | tellEdge | refuse => exact .inl ((streams_told _ _ _).symm ▸ hentry)
  | loseEdge =>
    left
    unfold State.loseEdge at hentry
    split at hentry
    · exact (get?_of_get?_erase hentry).2
    · exact hentry
  | @addStream id lookup route tunnel target connection hevent hlookup hkind hto =>
    exact entersFor_of_set hentry
      ⟨⟨lookup, route, tunnel, target, connection, ⟨id, hevent, hlookup⟩, hkind, rfl, hto, nofun⟩,
        rfl⟩
  | answer =>
    rw [tables_answered.2.1] at hentry
    exact .inl hentry
  | @dropProbe _ _ _ cleared => cases cleared <;> exact .inl hentry
  | dropStream => exact .inl (get?_of_get?_erase hentry).2
  | _ => exact .inl hentry

theorem Move.session {sessionId : Key} {entry : Entry}
    (hentry : next.udpSessions.get? sessionId = some entry) :
    state.udpSessions.get? sessionId = some entry ∨
      EntersFor start event .udpDatagram entry.edge next := by
  cases h with
  | register =>
    rw [(sameTraffic_register _ _ _).sessions] at hentry
    exact .inl hentry
  | loseAgent =>
    rw [(sameTraffic_lose _ _ _ _).sessions] at hentry
    exact .inl hentry
  | tellEdge | refuse => exact .inl ((udpSessions_told _ _ _).symm ▸ hentry)
  | loseEdge =>
    left
    unfold State.loseEdge at hentry
    split at hentry <;> exact hentry
  | @addSession id lookup route tunnel target connection key hevent hlookup hkind hto hudp =>
    exact entersFor_of_set hentry ⟨⟨lookup, route, tunnel, target, connection,
      ⟨id, hevent, hlookup⟩, hkind, rfl, hto, fun _ => hudp⟩, rfl⟩
  | answer =>
    rw [tables_answered.2.2.1] at hentry
    exact .inl hentry
  | @dropProbe _ _ _ cleared => cases cleared <;> exact .inl hentry
  | dropSession => exact .inl (get?_of_get?_erase hentry).2
  | _ => exact .inl hentry

theorem Move.request {requestId : Key} {entry : Entry}
    (hentry : next.pending.get? requestId = some entry) :
    state.pending.get? requestId = some entry ∨
      EntersFor start event .proxyRequest entry.edge next := by
  cases h with
  | register =>
    rw [(sameTraffic_register _ _ _).pending] at hentry
    exact .inl hentry
  | loseAgent =>
    rw [(sameTraffic_lose _ _ _ _).pending] at hentry
    exact .inl hentry
  | tellEdge | refuse => exact .inl ((pending_told _ _ _).symm ▸ hentry)
  | loseEdge =>
    left
    unfold State.loseEdge at hentry
    split at hentry <;> exact hentry
  | @addPending id lookup route tunnel target connection hevent hlookup hkind hto =>
    exact entersFor_of_set hentry
      ⟨⟨lookup, route, tunnel, target, connection, ⟨id, hevent, hlookup⟩, hkind, rfl, hto, nofun⟩,
        rfl⟩
  | answer =>
    rw [tables_answered.2.2.2.2] at hentry
    exact .inl (get?_of_get?_erase hentry).2
  | @dropProbe _ _ _ cleared => cases cleared <;> exact .inl hentry
  | _ => exact .inl hentry

theorem Move.lookup {id : ℕ} {lookup : Lookup} (hlookup : next.lookups.get? id = some lookup) :
    state.lookups.get? id = some lookup ∨
      id = state.clock ∧ SentByEdge env start event lookup.edge lookup.frame := by
  have hasked : ∀ {kind edge frame}, SentByEdge env start event edge frame →
      (state.lookups.set state.clock { kind, edge, frame, identity := state.clock }).get? id =
        some lookup → state.lookups.get? id = some lookup ∨
          id = state.clock ∧ SentByEdge env start event lookup.edge lookup.frame := by
    intro kind edge frame hsent hset
    rw [get?_set] at hset
    split_ifs at hset with hid
    · cases hset
      exact .inr ⟨hid, hsent⟩
    · exact .inl hset
  cases h with
  | register =>
    rw [(sameTraffic_register _ _ _).lookups] at hlookup
    exact .inl hlookup
  | loseAgent =>
    rw [(sameTraffic_lose _ _ _ _).lookups] at hlookup
    exact .inl hlookup
  | tellEdge | refuse => exact .inl ((lookups_told _ _ _).symm ▸ hlookup)
  | loseEdge =>
    left
    unfold State.loseEdge at hlookup
    split at hlookup <;> exact hlookup
  | openStream hsent | awaitRoute _ hsent => exact hasked hsent hlookup
  | forgetLookup | addPending | addStream | addSession | addProbe =>
    exact .inl (get?_of_get?_erase hlookup).2
  | answer =>
    rw [tables_answered.2.2.2.1] at hlookup
    exact .inl hlookup
  | @dropProbe _ _ _ cleared => cases cleared <;> exact .inl hlookup
  | _ => exact .inl hlookup

end

theorem gone_loseEdge {edge : ℕ} {later : EdgeConnection}
    (hconn : state.edgeConns.get? edge = some conn)
    (hlater : (state.loseEdge edge streamId).edgeConns.get? edge = some later) :
    later.framed.destroyed = true := by
  rw [edgeConns_loseEdge, endEdge, modifyEdge, update_of_get?_some hconn, get?_set_self] at hlater
  cases hlater
  rfl

theorem Move.closed (h : Move env start event state next)
    (hclosed : ∀ edge conn, state.edgeConns.get? edge = some conn → conn.gone = true →
      conn.framed.destroyed = true) {edge : ℕ} {later : EdgeConnection}
    (hlater : next.edgeConns.get? edge = some later) (hgone : later.gone = true) :
    later.framed.destroyed = true := by
  rcases h.edge edge with hedge | ⟨-, conn, hconn, rfl⟩
  · rw [hlater] at hedge
    generalize hbefore : state.edgeConns.get? edge = before at hedge
    cases hedge with
    | same => exact hclosed edge later hbefore hgone
    | new => cases hgone
    | @change old _ _ hsame hdestroyed =>
      exact hdestroyed (hclosed edge old hbefore (hsame.symm.trans hgone))
    | @opened conn => exact hclosed edge conn hbefore hgone
  · exact gone_loseEdge hconn hlater

theorem Move.asked (h : Move env start event state next)
    (hthere : ∀ edge, start.edgeConns.get? edge ≠ none → state.edgeConns.get? edge ≠ none)
    (hasked : ∀ id lookup, state.lookups.get? id = some lookup →
      state.edgeConns.get? lookup.edge ≠ none) {id : ℕ} {lookup : Lookup}
    (hlookup : next.lookups.get? id = some lookup) : next.edgeConns.get? lookup.edge ≠ none := by
  apply h.edge_ne_none
  rcases h.lookup hlookup with hbefore | ⟨-, chunk, conn, -, hconn, -⟩
  · exact hasked id lookup hbefore
  · apply hthere
    rw [hconn]
    exact nofun

/-! ## Runs that survive -/

theorem crashed_step (h : state.Crashed) (event : Event) : (step env state event).Crashed := by
  rw [step, if_pos h]
  exact h

theorem invariant_of_alive {guard : State → Event → Prop}
    (hstep : ∀ state event, inv state → guard state event → ¬ (step env state event).Crashed →
      inv (step env state event)) {start : State} {events : List Event}
    (h : Along (step env) guard start events) (hstart : inv start)
    (halive : ¬ (run (step env) start events).Crashed) : inv (run (step env) start events) := by
  have hpersist : ∀ (state : State) (event : Event), state.Crashed →
      (step env state event).Crashed := fun _ event hcrashed => crashed_step hcrashed event
  exact h.invariant_of_not_fault hpersist hstep hstart halive

end Tunnara.Relay
