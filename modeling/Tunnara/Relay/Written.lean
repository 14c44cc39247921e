/-
# What is written to agents about a stream

Three handlers of the Relay write frames of a stream to an agent: the one that
opens it, the one of a later frame of its edge and the one of the edge's close.
What the others write has a type of its own. So the frames of a stream that an
agent has been sent change only by events that concern the stream.
-/

import Tunnara.Relay.Moves
import Tunnara.Relay.Traffic

namespace Tunnara.Relay

open State Attempt Transition OrdMap

/-- A frame that opens the stream, carries its data or closes it. -/
def ofStream (streamId : Json) (frame : Json) : Bool :=
  (hasType frame "stream_open" || hasType frame "stream_data" || hasType frame "stream_close") &&
    frame.get? "streamId" = some streamId

/-- What the agent connection was sent on the stream, oldest first. -/
def State.received (state : State) (connection : ℕ) (streamId : Json) : List Json :=
  ((state.agentConns.get? connection).elim [] fun agent => agent.framed.sent).filter
    (ofStream streamId)

variable {frame payload : Json} {state : State} {after : State → State} {agentId : String}
  {connection : ℕ}

theorem not_ofStream_of_type {streamId : Json} {type : String} (h : hasType frame type = true)
    (hother : type ≠ "stream_open" ∧ type ≠ "stream_data" ∧ type ≠ "stream_close") :
    ofStream streamId frame = false := by
  unfold ofStream
  rw [hasType_other h _ hother.1.symm, hasType_other h _ hother.2.1.symm,
    hasType_other h _ hother.2.2.symm]
  rfl

theorem not_ofStream_of_id {streamId : Json} (h : frame.get? "streamId" ≠ some streamId) :
    ofStream streamId frame = false := by
  unfold ofStream
  rw [decide_eq_false h, Bool.and_false]

theorem lookup_assigned (own : List (String × Json)) (field : String × Option Json)
    (name : String) :
    Json.lookup (match field.2 with
      | some value => Json.setField own field.1 value
      | none => own.filter fun f => f.1 ≠ field.1) name =
    if name = field.1 then field.2 else Json.lookup own name := by
  obtain ⟨fieldName, value⟩ := field
  cases value with
  | some value => exact Json.lookup_setField
  | none =>
    unfold Json.lookup
    rw [List.find?_filter]
    split_ifs with hname
    · simp [hname]
    · congr 2
      funext f
      by_cases hf : f.1 = name
      · simp [hf, hname]
      · simp [hf]

theorem get?_overriding (frame : Json) (fields : List (String × Option Json)) (name : String) :
    (overriding frame fields).get? name =
      fields.foldl (fun value field => if name = field.1 then field.2 else value)
        (frame.get? name) := by
  have hown : frame.get? name = Json.lookup (object (some frame)) name := by
    cases frame <;> rfl
  rw [hown]
  unfold overriding
  generalize object (some frame) = own
  induction fields generalizing own with
  | nil => rfl
  | cons field rest ih =>
    rw [List.foldl_cons, List.foldl_cons, ih]
    exact congrArg (fun value => rest.foldl
      (fun value field => if name = field.1 then field.2 else value) value)
      (lookup_assigned own field name)

variable {streamId : Json}

theorem streamId_streamOpenFrame (frame : Json) (target : Target) (tunnel : Tunnel) :
    (streamOpenFrame frame target tunnel).get? "streamId" = frame.get? "streamId" := by
  simp [streamOpenFrame, get?_overriding, targetFields]

theorem type_streamOpenFrame (frame : Json) (target : Target) (tunnel : Tunnel) (type : String) :
    hasType (streamOpenFrame frame target tunnel) type = hasType frame type := by
  simp [hasType, streamOpenFrame, get?_overriding, targetFields]

theorem streamId_streamCloseFrame (id : Option Json) (reason : String) :
    (streamCloseFrame id reason).get? "streamId" = id := by
  cases id <;> rfl

variable {target : Target}

theorem not_ofStream_proxyRequestFrame {requestId : Key} {tunnel : Tunnel} :
    ofStream streamId (proxyRequestFrame frame requestId target tunnel) = false := by
  have htype : hasType (proxyRequestFrame frame requestId target tunnel) "proxy_request" = true := by
    simp [hasType, proxyRequestFrame, get?_overriding, targetFields]
  exact not_ofStream_of_type htype (by decide)

theorem not_ofStream_udpDatagramFrame {sessionId : String} :
    ofStream streamId (udpDatagramFrame frame sessionId target) = false := by
  have htype : hasType (udpDatagramFrame frame sessionId target) "udp_datagram" = true := by
    simp [hasType, udpDatagramFrame, get?_overriding, targetFields]
  exact not_ofStream_of_type htype (by decide)

theorem not_ofStream_healthProbeFrame {probeId : Key} {timeoutMs : JsNumber} :
    ofStream streamId (healthProbeFrame frame probeId target timeoutMs) = false := by
  have htype : hasType (healthProbeFrame frame probeId target timeoutMs) "health_probe" = true :=
    decide_eq_true rfl
  exact not_ofStream_of_type htype (by decide)

variable (env : Env) {log : ℕ → List Json} {guard : State → Prop}

/-- What the agents have been sent on the stream. -/
def Logged (streamId : Json) (log : ℕ → List Json) (state : State) : Prop :=
  ∀ connection, state.received connection streamId = log connection

section

variable (h : Logged streamId log state)
include h

theorem Logged.congr {next : State} (hconns : next.agentConns = state.agentConns) :
    Logged streamId log next := by
  intro connection
  unfold received
  rw [hconns]
  exact h connection

omit h in
theorem readsAgents_logged : ReadsAgents (Logged streamId log) := fun h hconns _ => h.congr hconns

theorem Logged.put {agent : AgentConnection}
    (hsent : agent.framed.sent.filter (ofStream streamId) = log connection) :
    Logged streamId log (state.putAgent connection agent) := by
  intro other
  unfold received putAgent
  by_cases heq : other = connection
  · subst heq
    rw [get?_set_self]
    exact hsent
  · rw [get?_set_of_ne _ heq]
    exact h other

theorem Logged.of_get? {agent : AgentConnection}
    (hagent : state.agentConns.get? connection = some agent) :
    agent.framed.sent.filter (ofStream streamId) = log connection := by
  have hlog := h connection
  unfold received at hlog
  rwa [hagent] at hlog

theorem Logged.modify (connection : ℕ) {f : AgentConnection → AgentConnection}
    (hsent : ∀ agent, (f agent).framed.sent = agent.framed.sent) :
    Logged streamId log (state.modifyAgent connection f) := by
  cases hagent : state.agentConns.get? connection with
  | none =>
    apply h.congr
    exact update_of_get?_none hagent f
  | some agent =>
    have hput : state.modifyAgent connection f = state.putAgent connection (f agent) := by
      unfold modifyAgent putAgent
      rw [update_of_get?_some hagent]
    rw [hput]
    apply h.put
    rw [hsent]
    exact h.of_get? hagent

end

section

variable (hother : ofStream streamId payload = false)
include hother

theorem keeps_logged_sendAgent :
    Keeps (Logged streamId log) guard (sendAgent env connection payload) := by
  apply keeps_sendAgent
  intro state agent effect h _ hagent hsend
  have hbefore := h.of_get? hagent
  apply h.put
  rcases FramedConnection.send_cases hsend with ⟨-, rfl⟩ | ⟨-, -, -, rfl⟩ | ⟨-, -, -, rfl⟩
  · exact hbefore
  · exact hbefore
  · rw [List.filter_append, hbefore]
    simp [hother]

theorem keeps_logged_sendToAgent :
    Keeps (Logged streamId log) guard (sendToAgent env agentId payload) := by
  apply keeps_sendToAgent
  exact fun _ => keeps_logged_sendAgent env hother

theorem keeps_logged_forward {entry : Option Entry} :
    Keeps (Logged streamId log) guard (forward env entry payload) := by
  cases entry with
  | none => exact keeps_pure
  | some entry => exact keeps_logged_sendToAgent env hother

end

section

variable {handler : Handler} (hkeeps : Keeps (Logged streamId log) (fun _ => True) handler)
include hkeeps

theorem logged_voidAsync (h : Logged streamId log state) :
    Logged streamId log (voidAsync handler state) :=
  keeps_voidAsync (fun _ _ h => h) hkeeps h trivial

theorem logged_callback (h : Logged streamId log state) :
    Logged streamId log (callback handler state) :=
  keeps_callback (fun _ _ h => h) hkeeps h trivial

end

variable {connection : ℕ}

theorem keeps_logged_refuse {error : JsError} :
    Keeps (Logged streamId log) guard (refuse env connection error) := by
  apply Keeps.bind
  · exact keeps_modify fun state h _ => h.modify connection fun _ => rfl
  intro _
  apply Keeps.bind
  · exact keeps_logged_sendAgent env (not_ofStream_of_type (decide_eq_true rfl) (by decide))
  · exact fun _ => keeps_modify fun state h _ =>
      h.modify connection fun agent => sent_close agent.framed

theorem keeps_logged_onHello {hello : Json} :
    Keeps (Logged streamId log) guard (onHello env connection hello) := by
  unfold onHello
  cases helloError hello with
  | some error => exact keeps_logged_refuse env
  | none => exact keeps_modify fun state h _ => h.modify connection fun _ => rfl

theorem logged_register (h : Logged streamId log state) :
    Logged streamId log (state.register connection agentId) := by
  have hclaimed : Logged streamId log (state.modifyAgent connection fun agent =>
      { agent with agentId := some agentId, phase := .announcing }) :=
    h.modify connection fun _ => rfl
  unfold register
  dsimp only
  split
  · exact hclaimed.congr rfl
  · rename_i old _
    have hdestroyed : Logged streamId log ((state.modifyAgent connection fun agent =>
        { agent with agentId := some agentId, phase := .announcing }).destroyAgent old) :=
      hclaimed.modify old fun _ => rfl
    exact hdestroyed.congr rfl

theorem keeps_logged_onAuthenticated (connection : ℕ) (result : Except JsError String) :
    Keeps (Logged streamId log) guard (onAuthenticated env connection result) := by
  cases result with
  | error error => exact keeps_logged_refuse env
  | ok agentId => exact keeps_modify fun state h _ => logged_register h

theorem keeps_logged_onPresence (connection : ℕ) (agentId : String) :
    Keeps (Logged streamId log) guard (onPresence env connection agentId) := by
  apply Keeps.get_bind
  intro read
  cases env.presenceError read.clock with
  | some error => exact keeps_logged_refuse env
  | none =>
    apply Keeps.tryCatch
    · apply Keeps.bind
      · exact keeps_logged_sendAgent env (not_ofStream_of_type (decide_eq_true rfl) (by decide))
      · exact fun _ => keeps_modify fun state h _ => h.modify connection fun _ => rfl
    · exact fun error => keeps_logged_refuse env

theorem agentConns_leave {state : State} :
    (state.leave env connection agentId).agentConns = state.agentConns := by
  unfold leave goOffline
  split
  · dsimp only
    split <;> rfl
  · rfl

theorem keeps_logged_onAgentClose (connection : ℕ) (agentId : Option String) :
    Keeps (Logged streamId log) guard (onAgentClose env connection agentId) :=
  readsAgents_logged.keeps_onAgentClose env fun _ _ h => h.congr (agentConns_leave env)

theorem keeps_logged_heartbeatAck (agentId : String) (at' : String) :
    Keeps (Logged streamId log) guard (sendToAgent env agentId (heartbeatAckFrame at')) :=
  keeps_logged_sendToAgent env (not_ofStream_of_type (decide_eq_true rfl) (by decide))

theorem keeps_logged_onAgentFrame :
    Keeps (Logged streamId log) guard (onAgentFrame env agentId frame) := by
  apply (readsAgents_logged.booked.keeps_onAgentFrame env frame
    fun text => keeps_logged_heartbeatAck env agentId text).mono
  exact fun _ _ _ _ => trivial

theorem logged_agentSignal (h : Logged streamId log state) (connection : ℕ) (signal : Signal) :
    Logged streamId log (agentSignal env connection state signal) := by
  have htick : Logged streamId log state.tick := h
  cases signal with
  | malformed | invalidLength => exact htick.modify connection fun _ => rfl
  | frame value =>
    unfold agentSignal
    dsimp only
    split
    · exact htick
    · split
      · have hcleared : Logged streamId log (state.tick.clearAuthTimer connection) :=
          htick.modify connection fun _ => rfl
        exact logged_voidAsync (keeps_logged_onHello env) hcleared
      · exact logged_voidAsync (keeps_logged_onAgentFrame env) htick
      · exact htick

theorem keeps_logged_onEdgeFrame {edge : ℕ} (hother : frame.get? "streamId" ≠ some streamId) :
    Keeps (Logged streamId log) guard (onEdgeFrame env edge frame) := by
  apply (readsAgents_logged.keeps_onEdgeFrame env (fun _ _ => True)
    fun entry => keeps_logged_forward env (not_ofStream_of_id hother)).mono
  exact fun _ _ => ⟨fun _ => trivial, fun _ _ => trivial⟩

theorem logged_edgeSignal (h : Logged streamId log state) (edge : ℕ) {signal : Signal}
    (hother : ∀ frame, signal = .frame frame → frame.get? "streamId" ≠ some streamId) :
    Logged streamId log (edgeSignal env edge state signal) := by
  have htick : Logged streamId log state.tick := h
  cases signal with
  | malformed | invalidLength => exact readsAgents_logged.booked.destroyEdge htick edge
  | frame value =>
    have hkeeps : Keeps (Logged streamId log) (fun _ => True) (onEdgeFrame env edge value) :=
      keeps_logged_onEdgeFrame env (hother value rfl)
    have hafter := hkeeps state.tick htick trivial
    unfold edgeSignal frameListener
    dsimp only
    split
    · rename_i hexec
      rwa [hexec] at hafter
    · rename_i hexec
      rw [hexec] at hafter
      exact readsAgents_logged.booked.destroyEdge hafter edge

theorem keeps_logged_onEdgeClose {key : Key} (hother : key.value ≠ some streamId) :
    Keeps (Logged streamId log) guard (onEdgeClose env key) := by
  have hnot : ofStream streamId (streamCloseFrame key.value "edge_closed") = false := by
    apply not_ofStream_of_id
    rwa [streamId_streamCloseFrame]
  apply (readsAgents_logged.keeps_onEdgeClose env (fun _ _ => True)
    fun entry => keeps_logged_forward env hnot).mono
  exact fun _ _ _ => trivial

theorem keeps_logged_onRoute {lookup : Lookup} (route : Route)
    (hother : lookup.kind = .streamOpen → lookup.frame.get? "streamId" ≠ some streamId) :
    Keeps (Logged streamId log) guard (onRoute env lookup route) := by
  have hnot : ∀ {payload}, Handed lookup payload → ofStream streamId payload = false := by
    intro payload hhanded
    cases hhanded with
    | proxyRequest requestId target tunnel =>
      exact not_ofStream_proxyRequestFrame
    | streamOpen hkind target tunnel =>
      apply not_ofStream_of_id
      rw [streamId_streamOpenFrame]
      exact hother hkind
    | udpDatagram sessionId target => exact not_ofStream_udpDatagramFrame
    | healthProbe probeId target timeout =>
      exact not_ofStream_healthProbeFrame
  have hroute : Keeps (Logged streamId log) (fun _ => ∀ target,
      addressee lookup route = some target → True) (onRoute env lookup route) :=
    readsAgents_logged.booked.keeps_onRoute env (fun _ _ _ => trivial)
      fun hhanded => keeps_logged_sendAgent env (hnot hhanded)
  exact hroute.mono fun _ _ _ _ => trivial

end Tunnara.Relay
