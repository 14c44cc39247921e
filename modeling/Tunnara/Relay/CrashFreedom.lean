/-
# When the Relay stays up

Nothing catches what an async handler, a timer or a `'close'` listener throws, and nothing listens
to the `'error'` of an edge connection. `Benign` says for each event what has to hold of it and of
the state it finds so that none of this happens: the frames its handler writes can be encoded and
do not go to an edge that was ended, no edge socket fails, and what is received is well formed.
-/

import Tunnara.Relay.Step

namespace Tunnara.Relay

open State Attempt Transition

variable (env : Env)

/-! ## Conditions -/

/-- A frame forwarded to the agent of an entry can be sent. -/
def SafeForward (state : State) (entry : Option Entry) (payload : Json) : Prop :=
  ∀ found, entry = some found → SafeToAgent env state found.agentId payload

/-- An agent's frame can be handed to the edge of an entry of that agent. -/
def SafeReply (state : State) (agentId : String) (entry : Option Entry) (frame : Json) : Prop :=
  ∀ found, entry = some found → found.agentId = agentId → SafeEdge env state found.edge frame

@[mk_iff]
structure SafeAgentFrame (state : State) (agentId : String) (frame : Json) : Prop where
  not_null : frame ≠ .null
  heartbeat : hasType frame "heartbeat" → env.distributed = false →
    env.store state.clock = none ∧
      SafeToAgent env state agentId (heartbeatAckFrame (env.timestamp state.clock))
  probe : hasType frame "health_probe_response" →
    SafeReply env state agentId (named state state.healthProbes frame "probeId") frame
  proxy : hasType frame "proxy_response" ∨ hasType frame "proxy_error" →
    SafeReply env state agentId (named state state.pending frame "requestId") frame
  stream : hasType frame "stream_opened" ∨ hasType frame "stream_data" ∨
      hasType frame "stream_close" →
    SafeReply env state agentId (named state state.streams frame "streamId") frame
  udp : hasType frame "udp_response" ∨ hasType frame "udp_close" →
    SafeReply env state agentId (named state state.udpSessions frame "sessionId") frame

@[mk_iff]
structure SafeEdgeFrame (state : State) (edge : ℕ) (frame : Json) : Prop where
  not_null : frame ≠ .null
  udpClose : hasType frame "udp_close" →
    SafeForward env state (named state state.udpSessions frame "sessionId") frame
  stream : hasType frame "stream_data" ∨ hasType frame "stream_close" →
    truthy (state.streamIdOf edge).value →
    SafeForward env state (state.streams.get? (state.streamIdOf edge)) frame

/-- An error can be reported to the agent connection. -/
def SafeRefusal (state : State) (connection : ℕ) (error : JsError) : Prop :=
  SafeAgent env state connection (errorFrame error)

/-! ## Frame conditions -/

variable {state : State} {connection edge : ℕ} {frame : Json}

theorem safeAgent_congr {state' : State}
    (h : state.agentFramed connection = state'.agentFramed connection) (payload : Json) :
    SafeAgent env state connection payload ↔ SafeAgent env state' connection payload := by
  unfold SafeAgent
  rw [h]

variable {payload : Json}

theorem safeAgent_setPhase {other : ℕ} {phase : Phase} :
    SafeAgent env (state.setPhase connection phase) other payload ↔
      SafeAgent env state other payload :=
  safeAgent_congr env (agentFramed_modifyAgent (fun agent => { agent with phase }) (fun _ => rfl)
    state connection other) payload

/-! ## Guards of the handlers -/

theorem guarded_refuse (connection : ℕ) (error : JsError) :
    Guarded Crashed (refuse env connection error) fun state =>
      SafeRefusal env state connection error := by
  have hsend : Guarded Crashed (do
      sendAgent env connection (errorFrame error)
      modify fun state => state.closeAgent connection : Handler) fun state =>
        SafeAgent env state connection (errorFrame error) :=
    (guarded_sendAgent env).bind_harmless fun _ => harmless_modify fun state => crashed_closeAgent
  refine (hsend.modify_bind (fun state => state.setPhase connection .refused)
    fun state => Iff.rfl).congr ?_
  intro state
  exact safeAgent_setPhase env

theorem guarded_forward {entry : Option Entry} :
    Guarded Crashed (forward env entry payload) fun state =>
      SafeForward env state entry payload := by
  intro state
  cases entry with
  | none => simp [forward, SafeForward]
  | some entry => simp [forward, SafeForward, guarded_sendToAgent env state]

theorem guarded_turnAway {edge : ℕ} {answer : Json} :
    Guarded Crashed (turnAway env edge answer) fun state => SafeEdge env state edge answer :=
  (guarded_sendEdge env).bind_harmless fun _ => harmless_modify fun _ => crashed_closeEdge

theorem guarded_onHello (connection : ℕ) (hello : Json) :
    Guarded Crashed (onHello env connection hello) fun state =>
      ∀ error, helloError hello = some error → SafeRefusal env state connection error := by
  intro state
  unfold onHello
  cases helloError hello with
  | some error => simp [guarded_refuse env connection error state]
  | none => simp [setPhase, modifyAgent, Crashed]

variable {agentId : String}

theorem crashed_register : (state.register connection agentId).Crashed ↔ state.Crashed := by
  unfold register
  dsimp only
  split <;> rfl

theorem guarded_onAuthenticated (connection : ℕ) (result : Except JsError String) :
    Guarded Crashed (onAuthenticated env connection result) fun state =>
      ∀ error, result = .error error → SafeRefusal env state connection error := by
  intro state
  unfold onAuthenticated
  cases result with
  | error error => simp [guarded_refuse env connection error state]
  | ok agentId => simp [crashed_register]

/-- What the end of the presence update leads to can be told to the agent. -/
structure SafePresence (state : State) (connection : ℕ) (agentId : String) : Prop where
  store : ∀ error, env.presenceError state.clock = some error →
    SafeRefusal env state connection error
  announce : env.presenceError state.clock = none → ∀ framed error,
    state.agentFramed connection = some framed →
    framed.send env.codec (helloOkFrame agentId) = .error error →
    SafeRefusal env state connection error

theorem fails_announce (connection : ℕ) (agentId : String) (state : State) :
    Fails Crashed (tryCatch (do
        sendAgent env connection (helloOkFrame agentId)
        modify fun state => state.setPhase connection .ready : Handler)
      (fun error => refuse env connection error)) state ↔
      state.Crashed ∨ ¬ ∀ framed error, state.agentFramed connection = some framed →
        framed.send env.codec (helloOkFrame agentId) = .error error →
        SafeRefusal env state connection error := by
  unfold Fails
  rw [exec_tryCatch, exec_bind, exec_sendAgent]
  unfold agentFramed
  cases hagent : state.agentConns.get? connection with
  | none => simp [setPhase, modifyAgent, Crashed]
  | some agent =>
    cases hsend : agent.framed.send env.codec (helloOkFrame agentId) with
    | error error =>
      have hrefuse := guarded_refuse env connection error state
      unfold Fails at hrefuse
      simp [hsend, hrefuse]
    | ok effect => simp [hsend, setPhase, modifyAgent, agentEffect, putAgent, Crashed]

theorem guarded_onPresence :
    Guarded Crashed (onPresence env connection agentId) fun state =>
      SafePresence env state connection agentId := by
  intro state
  rw [onPresence, fails_get_bind]
  cases hstore : env.presenceError state.clock with
  | some error =>
    have hiff : SafePresence env state connection agentId ↔
        SafeRefusal env state connection error :=
      ⟨fun h => h.store error hstore, fun h => ⟨by simp [hstore, h], by simp [hstore]⟩⟩
    simp only [hiff]
    exact guarded_refuse env connection error state
  | none =>
    have hannounce := fails_announce env connection agentId state
    refine hannounce.trans (or_congr Iff.rfl (not_congr ?_))
    exact ⟨fun h => ⟨by simp [hstore], fun _ => h⟩, fun h => h.announce hstore⟩

/-! ## Disconnection of an agent -/

/-- The frame that fails an entry can be handed to its edge, if the entry is the agent's. -/
def SafeFailure (agentId : String) (frame : Key → Json) (item : Key × Entry) (state : State) :
    Prop :=
  item.2.agentId = agentId → SafeEdge env state item.2.edge (frame item.1)

def SafeLoop (turn : Key × Entry → Handler) (safe : Key × Entry → State → Prop)
    (items : List (Key × Entry)) (state : State) : Prop :=
  Along (fun state item => (exec (turn item) state).2) (fun state item => safe item state)
    state items

variable (agentId : String) (after : State → State) (item : Key × Entry) (lookup : Lookup)
  (route : Route)

theorem guarded_fail {agentId : String} {frame : Key → Json} {item : Key × Entry} {turn : Handler}
    (hafter : ∀ state, (after state).Crashed ↔ state.Crashed)
    (hturn : turn = if item.2.agentId = agentId then do
        sendEdge env item.2.edge (frame item.1)
        modify after
      else pure ()) : Guarded Crashed turn (SafeFailure env agentId frame item) := by
  intro state
  have hsend : Guarded Crashed (do
      sendEdge env item.2.edge (frame item.1)
      modify after : Handler) fun state => SafeEdge env state item.2.edge (frame item.1) :=
    (guarded_sendEdge env).bind_harmless fun _ => harmless_modify hafter
  rw [hturn]
  unfold SafeFailure
  by_cases hagent : item.2.agentId = agentId
  · simpa [hagent] using hsend state
  · simp [hagent]

def failureOfPending (requestId : Key) : Json :=
  proxyErrorFrame requestId.value 502 "Agente desconectado."

def failureOfStream (streamId : Key) : Json :=
  streamCloseFrame streamId.value "agent_disconnected"

def failureOfSession (sessionId : Key) : Json :=
  udpCloseFrame sessionId.value "agent_disconnected"

theorem guarded_failPending :
    Guarded Crashed (failPending env agentId item)
      (SafeFailure env agentId failureOfPending item) :=
  guarded_fail env
    (fun state => ((state.closeEdge item.2.edge).clearTimeout item.2.timer).dropPending item.1)
    (fun _ => crashed_clearTimeout _ _) rfl

theorem guarded_failStream :
    Guarded Crashed (failStream env agentId item)
      (SafeFailure env agentId failureOfStream item) :=
  guarded_fail env (fun state => (state.closeEdge item.2.edge).dropStream item.1)
    (fun _ => Iff.rfl) rfl

theorem guarded_failSession :
    Guarded Crashed (failSession env agentId item)
      (SafeFailure env agentId failureOfSession item) :=
  guarded_fail env (fun state => state.dropSession item.1) (fun _ => Iff.rfl) rfl

/-- The three loops of the `'close'` listener, each in the state the one before leaves. -/
def SafeFailures (agentId : String) (pending streams sessions : List (Key × Entry))
    (state : State) : Prop :=
  let pendingDone := (exec (pending.forM (failPending env agentId)) state).2
  let streamsDone := (exec (streams.forM (failStream env agentId)) pendingDone).2
  SafeLoop (failPending env agentId) (SafeFailure env agentId failureOfPending) pending state ∧
    SafeLoop (failStream env agentId) (SafeFailure env agentId failureOfStream) streams
      pendingDone ∧
    SafeLoop (failSession env agentId) (SafeFailure env agentId failureOfSession) sessions
      streamsDone

theorem guarded_failures {pending streams sessions : List (Key × Entry)} :
    Guarded Crashed (do
      pending.forM (failPending env agentId)
      streams.forM (failStream env agentId)
      sessions.forM (failSession env agentId) : Handler)
      (SafeFailures env agentId pending streams sessions) :=
  (Guarded.forM (guarded_failPending env agentId) pending).bind fun _ =>
    (Guarded.forM (guarded_failStream env agentId) streams).bind fun _ =>
      Guarded.forM (guarded_failSession env agentId) sessions

/-- The closing of an agent's connection can be told to all edges that wait for it. -/
structure SafeDisconnect (state : State) (connection : ℕ) (agentId : String) : Prop where
  store : state.agents.get? agentId = some connection → env.presenceError state.clock = none
  failures :
    let left := state.leave env connection agentId
    SafeFailures env agentId left.pending.entries left.streams.entries left.udpSessions.entries left

theorem crashed_leave {agentId : String} :
    (state.leave env connection agentId).Crashed ↔ state.Crashed ∨
      ¬ (state.agents.get? agentId = some connection → env.presenceError state.clock = none) := by
  unfold leave goOffline
  by_cases hcurrent : state.agents.get? agentId = some connection
  · simp only [if_pos hcurrent, askPresence, setAgentsGauge]
    cases hstore : env.presenceError state.clock with
    | none => simp [Crashed]
    | some error => simp [hcurrent]
  · simp [hcurrent]

theorem guarded_onAgentClose {agentId : Option String} :
    Guarded Crashed (onAgentClose env connection agentId) fun state =>
      ∀ id, agentId = some id → SafeDisconnect env state connection id := by
  intro state
  cases agentId with
  | none => simp [onAgentClose]
  | some id =>
    rw [onAgentClose, fails_modify_bind, fails_get_bind]
    refine (guarded_failures env id _).trans ?_
    rw [crashed_leave, or_assoc, ← not_and_or]
    refine or_congr Iff.rfl (not_congr ⟨?_, ?_⟩)
    · rintro ⟨hstore, hfailures⟩ _ ⟨⟩
      exact ⟨hstore, hfailures⟩
    · intro h
      exact ⟨(h id rfl).store, (h id rfl).failures⟩

/-! ## Frames of an agent -/

theorem guarded_answer (edge : ℕ) (frame : Json) (after : State → State)
    (hafter : ∀ state, (after state).Crashed ↔ state.Crashed) :
    Guarded Crashed (do
      sendEdge env edge frame
      modify after : Handler) fun state => SafeEdge env state edge frame :=
  (guarded_sendEdge env).bind_harmless fun _ => harmless_modify hafter

theorem guarded_timedAnswer {edge : ℕ} {timer : Option ℕ} {after : State → State}
    (hafter : ∀ state, (after state).Crashed ↔ state.Crashed) :
    Guarded Crashed (do
      modify fun state => state.clearTimeout timer
      sendEdge env edge frame
      modify after : Handler) fun state => SafeEdge env state edge frame := by
  have hanswer := guarded_answer env edge frame after hafter
  refine (hanswer.modify_bind (fun state => state.clearTimeout timer)
    fun state => crashed_clearTimeout state timer).congr ?_
  intro state
  cases timer <;> exact Iff.rfl

theorem guarded_reply {entry : Option Entry} {answer : Entry → Handler}
    (hanswer : ∀ entry, Guarded Crashed (answer entry) fun state =>
      SafeEdge env state entry.edge frame) :
    Guarded Crashed (match entry with
      | none => pure ()
      | some entry => if entry.agentId ≠ agentId then pure () else answer entry) fun state =>
      SafeReply env state agentId entry frame := by
  intro state
  unfold SafeReply
  cases entry with
  | none => simp
  | some entry =>
    by_cases hagent : entry.agentId = agentId
    · simpa [hagent] using hanswer entry state
    · simp [hagent]

theorem guarded_onProbeResponse :
    Guarded Crashed (onProbeResponse env agentId frame) fun state =>
      SafeReply env state agentId (named state state.healthProbes frame "probeId") frame := by
  intro state
  rw [onProbeResponse, fails_get_bind]
  refine guarded_reply env agentId (fun _ => guarded_timedAnswer env fun _ => ?_) state
  exact Iff.rfl

theorem guarded_onProxyResponse :
    Guarded Crashed (onProxyResponse env agentId frame) fun state =>
      SafeReply env state agentId (named state state.pending frame "requestId") frame := by
  intro state
  rw [onProxyResponse, fails_get_bind]
  refine guarded_reply env agentId (fun _ => guarded_timedAnswer env fun _ => ?_) state
  exact Iff.rfl

theorem guarded_onStreamReply :
    Guarded Crashed (onStreamReply env agentId frame) fun state =>
      SafeReply env state agentId (named state state.streams frame "streamId") frame := by
  intro state
  rw [onStreamReply, fails_get_bind]
  refine guarded_reply env agentId (fun _ => guarded_answer env _ _ _ fun _ => ?_) state
  split <;> rfl

theorem guarded_onUdpReply :
    Guarded Crashed (onUdpReply env agentId frame) fun state =>
      SafeReply env state agentId (named state state.udpSessions frame "sessionId") frame := by
  intro state
  rw [onUdpReply, fails_get_bind]
  refine guarded_reply env agentId (fun _ => guarded_answer env _ _ _ fun _ => ?_) state
  split <;> rfl

theorem guarded_onHeartbeat :
    Guarded Crashed (onHeartbeat env agentId) fun state =>
      env.distributed = false → env.store state.clock = none ∧
        SafeToAgent env state agentId (heartbeatAckFrame (env.timestamp state.clock)) := by
  intro state
  rw [onHeartbeat, fails_get_bind]
  cases env.distributed with
  | true => simp [Crashed]
  | false =>
    cases hstore : env.store state.clock with
    | some error => simp [hstore]
    | none => simp [hstore, guarded_sendToAgent env state]

theorem guarded_onHeartbeatSettled :
    Guarded Crashed (onHeartbeatSettled env agentId) fun state =>
      SafeToAgent env state agentId (heartbeatAckFrame (env.timestamp state.clock)) := by
  intro state
  rw [onHeartbeatSettled, fails_get_bind]
  exact guarded_sendToAgent env state

theorem guarded_onAgentFrame :
    Guarded Crashed (onAgentFrame env agentId frame) fun state =>
      SafeAgentFrame env state agentId frame := by
  intro state
  by_cases hnull : frame = .null
  · subst hnull
    simp [onAgentFrame, safeAgentFrame_iff]
  simp only [onAgentFrame_of_ne_null env hnull, dispatchAgentFrame, safeAgentFrame_iff]
  -- one case for each type of frame the Relay knows
  by_cases hheartbeat : hasType frame "heartbeat" = true
  · have hother := hasType_other hheartbeat
    simp [hnull, hheartbeat, hother, guarded_onHeartbeat env agentId state]
  by_cases hprobe : hasType frame "health_probe_response" = true
  · have hother := hasType_other hprobe
    simp [hnull, hprobe, hother, guarded_onProbeResponse env agentId state]
  by_cases hproxy : hasType frame "proxy_response" = true ∨ hasType frame "proxy_error" = true
  · rcases hproxy with htype | htype <;>
    · have hother := hasType_other htype
      simp [hnull, htype, hother, guarded_onProxyResponse env agentId state]
  by_cases hstream : hasType frame "stream_opened" = true ∨ hasType frame "stream_data" = true ∨
      hasType frame "stream_close" = true
  · rcases hstream with htype | htype | htype <;>
    · have hother := hasType_other htype
      simp [hnull, htype, hother, guarded_onStreamReply env agentId state]
  by_cases hudp : hasType frame "udp_response" = true ∨ hasType frame "udp_close" = true
  · rcases hudp with htype | htype <;>
    · have hother := hasType_other htype
      simp [hnull, htype, hother, guarded_onUdpReply env agentId state]
  push Not at hproxy hstream hudp
  simp [hnull, hheartbeat, hprobe, hproxy, hstream, hudp]

/-! ## Frames of an edge -/

theorem guarded_onEdgeUdpClose :
    Guarded Crashed (onEdgeUdpClose env frame) fun state =>
      SafeForward env state (named state state.udpSessions frame "sessionId") frame := by
  intro state
  rw [onEdgeUdpClose, fails_get_bind]
  refine (guarded_forward env).bind_harmless (fun _ => harmless_modify fun later => ?_)
    state
  exact Iff.rfl

variable {streamId : Key}

theorem guarded_onEdgeStream :
    Guarded Crashed (onEdgeStream env streamId frame) fun state =>
      SafeForward env state (state.streams.get? streamId) frame := by
  intro state
  rw [onEdgeStream, fails_get_bind]
  refine (guarded_forward env).bind_harmless (fun _ => harmless_modify fun later => ?_)
    state
  split <;> rfl

theorem guarded_onEdgeFrame (edge : ℕ) (frame : Json) :
    Guarded Crashed (onEdgeFrame env edge frame) fun state =>
      SafeEdgeFrame env state edge frame := by
  intro state
  by_cases hnull : frame = .null
  · subst hnull
    simp [onEdgeFrame, safeEdgeFrame_iff]
  simp only [onEdgeFrame_of_ne_null env hnull, dispatchEdgeFrame, safeEdgeFrame_iff, fails_get_bind]
  by_cases hproxy : hasType frame "proxy_request" = true
  · have hother := hasType_other hproxy
    simp [hnull, hproxy, hother, awaitRoute, Crashed]
  by_cases hopen : hasType frame "stream_open" = true
  · have hother := hasType_other hopen
    simp [hnull, hopen, hother, awaitRoute, setStreamId, modifyEdge, Crashed]
  by_cases hdatagram : hasType frame "udp_datagram" = true
  · have hother := hasType_other hdatagram
    simp [hnull, hdatagram, hother, awaitRoute, Crashed]
  by_cases hprobe : hasType frame "health_probe" = true
  · have hother := hasType_other hprobe
    simp [hnull, hprobe, hother, awaitRoute, Crashed]
  by_cases hudp : hasType frame "udp_close" = true
  · have hother := hasType_other hudp
    simp [hnull, hudp, hother, guarded_onEdgeUdpClose env state]
  by_cases hstream : (hasType frame "stream_data" = true ∨ hasType frame "stream_close" = true) ∧
      truthy (state.streamIdOf edge).value = true
  · simp [hnull, hproxy, hopen, hdatagram, hprobe, hudp, hstream, guarded_onEdgeStream env state]
  · simp only [Bool.and_eq_true, Bool.or_eq_true, hproxy, hopen, hdatagram, hprobe, hudp, hstream]
    simp only [Bool.false_eq_true, if_false, fails_pure]
    have hidle : hasType frame "stream_data" = true ∨ hasType frame "stream_close" = true →
        truthy (state.streamIdOf edge).value = true →
        SafeForward env state (state.streams.get? (state.streamIdOf edge)) frame :=
      fun htype hid => absurd ⟨htype, hid⟩ hstream
    simp only [hnull, ne_eq, not_false_eq_true, false_implies, true_and]
    exact ⟨.inl, fun h => h.elim id fun hn => absurd hidle hn⟩

/-- The faults and the edge connection are as they were. -/
def Steady (edge : ℕ) (before after : State) : Prop :=
  after.faults = before.faults ∧ after.edgeFramed edge = before.edgeFramed edge

theorem keeps_steady_forward {edge : ℕ} {before : State} {entry : Option Entry} :
    Keeps (Steady edge before) (fun _ => True) (forward env entry payload) := by
  cases entry with
  | none => exact keeps_pure
  | some entry =>
    refine keeps_sendToAgent env fun connection => keeps_sendAgent env ?_
    intro state agent effect hsteady _ _ _
    exact hsteady

theorem steady_setStreamId {other : ℕ} {before : State} (h : Steady edge before state) :
    Steady edge before (state.setStreamId other streamId) := by
  have hframed := edgeFramed_modifyEdge (fun conn => { conn with streamId }) (fun _ => rfl) state
    other edge
  exact ⟨h.1, hframed.trans h.2⟩

theorem keeps_steady_onEdgeFrame (edge : ℕ) (before : State) (frame : Json) :
    Keeps (Steady edge before) (fun _ => True) (onEdgeFrame env edge frame) := by
  by_cases hnull : frame = .null
  · subst hnull
    exact keeps_throw
  rw [onEdgeFrame_of_ne_null env hnull]
  refine Keeps.get_bind fun read => ?_
  have hroute : ∀ kind, Keeps (Steady edge before) (fun state => True ∧ read = state)
      (modify fun state => state.awaitRoute kind edge frame : Handler) :=
    fun kind => keeps_modify fun state h _ => h
  split_ifs
  · exact hroute _
  · exact keeps_modify fun state h _ => steady_setStreamId h
  · exact hroute _
  · exact hroute _
  · refine (Keeps.get_bind fun later => (keeps_steady_forward env).mono
      (fun _ _ => trivial) |>.bind fun _ => keeps_modify fun state h _ => h)
  · refine (Keeps.get_bind fun later => (keeps_steady_forward env).mono
      (fun _ _ => trivial) |>.bind fun _ => keeps_modify fun state h _ => ?_)
    split <;> exact h
  · exact keeps_pure

theorem crashed_frameListener (edge : ℕ) (frame : Json) (state : State) :
    (frameListener edge (onEdgeFrame env edge frame) state).Crashed ↔
      state.Crashed ∨ ¬ (state.EdgeDestroyed edge ∨ SafeEdgeFrame env state edge frame) := by
  have hsteady := keeps_steady_onEdgeFrame env edge state frame state ⟨rfl, rfl⟩ trivial
  have hguard := guarded_onEdgeFrame env edge frame state
  unfold Fails at hguard
  unfold frameListener
  cases hexec : exec (onEdgeFrame env edge frame) state with
  | mk result after =>
    rw [hexec] at hsteady hguard
    have hfaults : after.faults = state.faults := hsteady.1
    have hframed : after.edgeFramed edge = state.edgeFramed edge := hsteady.2
    have hcrashed : after.Crashed ↔ state.Crashed := by simp only [Crashed, hfaults]
    have hdestroyed : after.EdgeDestroyed edge ↔ state.EdgeDestroyed edge := by
      simp only [EdgeDestroyed, hframed]
    cases result with
    | ok _ =>
      tauto
    | error _ =>
      simp only [crashed_destroyEdge, hcrashed, hdestroyed] at hguard ⊢
      tauto

/-! ## Routes -/

/-- The frame that answers or carries a proxied request can be sent. -/
def SafeProxyRequest (state : State) (lookup : Lookup) (route : Route) : Prop :=
  let refusal := proxyErrorFrame (lookup.frame.get? "requestId")
  match route.tunnel, route.target with
  | none, _ => SafeEdge env state lookup.edge (refusal 404 "Túnel não encontrado.")
  | some _, none =>
    SafeEdge env state lookup.edge (refusal 503 "Nenhum target saudável disponível.")
  | some tunnel, some target =>
    if tunnel.status ≠ text "active" then
      SafeEdge env state lookup.edge (refusal 503 "Nenhum target saudável disponível.")
    else match state.agents.get? target.agentId with
      | none => SafeEdge env state lookup.edge (refusal 503 "Agente do target está offline.")
      | some connection => SafeAgent env state connection
          (proxyRequestFrame lookup.frame (keyOrFresh env lookup "requestId" state) target tunnel)

theorem guarded_proxyRequest :
    Guarded Crashed (proxyRequest env lookup route) fun state =>
      SafeProxyRequest env state lookup route := by
  intro state
  rw [proxyRequest, fails_get_bind]
  unfold SafeProxyRequest
  cases route.tunnel with
  | none => exact guarded_turnAway env state
  | some tunnel =>
    cases route.target with
    | none => exact guarded_turnAway env state
    | some target =>
      dsimp only
      split_ifs with hstatus
      · exact guarded_turnAway env state
      · cases hagent : state.agents.get? target.agentId with
        | none => simpa only [hagent] using guarded_turnAway env state
        | some connection =>
          exact guarded_sendAgent env _

/-- The frame that answers or carries the opening of a stream can be sent. -/
def SafeStreamOpen (state : State) (lookup : Lookup) (route : Route) : Prop :=
  match connectedTarget state route with
  | none => SafeEdge env state lookup.edge
      (streamCloseFrame (lookup.frame.get? "streamId") (unavailable route))
  | some (tunnel, target, connection) =>
    SafeAgent env state connection (streamOpenFrame lookup.frame target tunnel)

theorem guarded_streamOpen :
    Guarded Crashed (streamOpen env lookup route) fun state =>
      SafeStreamOpen env state lookup route := by
  intro state
  rw [streamOpen, fails_get_bind]
  unfold SafeStreamOpen
  cases hfound : connectedTarget state route with
  | none => simpa only [hfound] using guarded_turnAway env state
  | some found =>
    simp only [hfound, fails_modify_bind]
    exact guarded_sendAgent env _

/-- The session identifier can be converted and the frame be sent. -/
def SafeUdpDatagram (state : State) (lookup : Lookup) (route : Route) : Prop :=
  match (connectedTarget state route).filter fun found => found.1.protocol = text "udp" with
  | none => SafeEdge env state lookup.edge
      (udpCloseFrame (lookup.frame.get? "sessionId") (unavailable route))
  | some (_, target, connection) =>
    ∃ sessionId, sessionText env lookup state = .ok sessionId ∧
      SafeAgent env state connection (udpDatagramFrame lookup.frame sessionId target)

theorem guarded_udpDatagram :
    Guarded Crashed (udpDatagram env lookup route) fun state =>
      SafeUdpDatagram env state lookup route := by
  intro state
  rw [udpDatagram, fails_get_bind]
  unfold SafeUdpDatagram
  cases hfound : (connectedTarget state route).filter fun found =>
      found.1.protocol = text "udp" with
  | none => simpa only [hfound] using guarded_sendEdge env state
  | some found =>
    cases hsession : sessionText env lookup state with
    | error error => simp [hfound, hsession]
    | ok sessionId =>
      simp only [hfound, hsession, fails_modify_bind, Except.ok.injEq, exists_eq_left']
      exact guarded_sendAgent env _

/-- The timeout can be converted and the frame be sent. -/
def SafeHealthProbe (state : State) (lookup : Lookup) (route : Route) : Prop :=
  match route.target.bind fun target =>
      (state.agents.get? target.agentId).map fun connection => (target, connection) with
  | none => SafeEdge env state lookup.edge (probeFailedFrame (lookup.frame.get? "probeId")
      (lookup.frame.get? "targetId") "target_unavailable")
  | some (target, connection) =>
    ∃ timeout, probeTimeout env lookup = .ok timeout ∧
      SafeAgent env state connection (healthProbeFrame lookup.frame
        (keyOrFresh env lookup "probeId" state) target (timeout.max 250))

theorem guarded_healthProbe :
    Guarded Crashed (healthProbe env lookup route) fun state =>
      SafeHealthProbe env state lookup route := by
  intro state
  rw [healthProbe, fails_get_bind]
  unfold SafeHealthProbe
  cases hfound : route.target.bind fun target =>
      (state.agents.get? target.agentId).map fun connection => (target, connection) with
  | none => simpa only [hfound] using guarded_turnAway env state
  | some found =>
    cases htimeout : probeTimeout env lookup with
    | error error => simp [hfound]
    | ok timeout =>
      simp only [hfound, fails_modify_bind, Except.ok.injEq, exists_eq_left']
      exact guarded_sendAgent env _

def SafeRoute (state : State) (lookup : Lookup) (route : Route) : Prop :=
  match lookup.kind with
  | .proxyRequest => SafeProxyRequest env state lookup route
  | .streamOpen => SafeStreamOpen env state lookup route
  | .udpDatagram => SafeUdpDatagram env state lookup route
  | .healthProbe => SafeHealthProbe env state lookup route

theorem guarded_onRoute :
    Guarded Crashed (onRoute env lookup route) fun state => SafeRoute env state lookup route := by
  intro state
  unfold onRoute SafeRoute
  cases lookup.kind with
  | proxyRequest => exact guarded_proxyRequest env lookup route state
  | streamOpen => exact guarded_streamOpen env lookup route state
  | udpDatagram => exact guarded_udpDatagram env lookup route state
  | healthProbe => exact guarded_healthProbe env lookup route state

/-! ## Timers -/

/-- The edge of an expired request can be told. -/
def SafeTimer (state : State) : Timer → Prop
  | .proxyRequest requestId => ∀ entry, state.pending.get? requestId = some entry →
      SafeEdge env state entry.edge
        (proxyErrorFrame requestId.value 504 "Tempo limite do upstream.")
  | .healthProbe probeId targetId => ∀ entry, state.healthProbes.get? probeId = some entry →
      SafeEdge env state entry.edge (probeFailedFrame probeId.value targetId "timeout")

theorem guarded_onTimer {timer : Timer} :
    Guarded Crashed (onTimer env timer) fun state => SafeTimer env state timer := by
  intro state
  rw [onTimer, fails_get_bind]
  cases timer with
  | proxyRequest requestId =>
    simp only [SafeTimer]
    cases hentry : state.pending.get? requestId with
    | none => simp
    | some entry =>
      simp only [Option.some.injEq, forall_eq']
      refine guarded_answer env _ _ _ (fun later => ?_) state
      exact Iff.rfl
  | healthProbe probeId targetId =>
    simp only [SafeTimer]
    cases hentry : state.healthProbes.get? probeId with
    | none => simp
    | some entry =>
      simp only [Option.some.injEq, forall_eq']
      refine guarded_answer env _ _ _ (fun later => ?_) state
      exact Iff.rfl

theorem guarded_onEdgeClose :
    Guarded Crashed (onEdgeClose env streamId) fun state => truthy streamId.value →
      SafeForward env state (state.streams.get? streamId)
        (streamCloseFrame streamId.value "edge_closed") := by
  intro state
  unfold onEdgeClose
  cases truthy streamId.value with
  | false => simp
  | true =>
    simp only [if_true, fails_get_bind, forall_const]
    refine (guarded_forward env).bind_harmless (fun _ => harmless_modify fun later => ?_) state
    exact Iff.rfl

/-! ## Data -/

/-- What a frame of an agent leads to can be sent. -/
def SafeAgentSignal (connection : ℕ) (state : State) (signal : Signal) : Prop :=
  ∀ value agent, signal = .frame value →
    state.tick.agentConns.get? connection = some agent →
      (agent.phase = .awaitingHello → ∀ error, helloError value = some error →
        SafeRefusal env state.tick connection error) ∧
      (agent.phase = .ready → ∀ agentId, agent.agentId = some agentId →
        SafeAgentFrame env state.tick agentId value)

/-- An edge sends a frame, and what it leads to can be sent. -/
def SafeEdgeSignal (edge : ℕ) (state : State) (signal : Signal) : Prop :=
  state.tick.EdgeDestroyed edge ∨
    ∃ value, signal = .frame value ∧ SafeEdgeFrame env state.tick edge value

theorem crashed_voidAsync {handler : Handler} :
    (voidAsync handler state).Crashed ↔ Fails Crashed handler state := by
  unfold voidAsync Fails
  split <;> simp_all

theorem crashed_callback {handler : Handler} :
    (callback handler state).Crashed ↔ Fails Crashed handler state := by
  unfold callback Fails
  split <;> simp_all

theorem crashed_agentSignal (connection : ℕ) (state : State) (signal : Signal) :
    (agentSignal env connection state signal).Crashed ↔
      state.Crashed ∨ ¬ SafeAgentSignal env connection state signal := by
  have htick : state.tick.Crashed ↔ state.Crashed := Iff.rfl
  unfold agentSignal SafeAgentSignal
  cases signal with
  | malformed | invalidLength => simp [htick]
  | frame value =>
    dsimp only
    cases hagent : state.tick.agentConns.get? connection with
    | none => simp [htick]
    | some agent =>
      obtain ⟨framed, phase, agentId, authTimer, gone⟩ := agent
      cases phase with
      | awaitingHello =>
        have hsafe : ∀ error, SafeRefusal env (state.tick.clearAuthTimer connection)
            connection error ↔ SafeRefusal env state.tick connection error := fun error =>
          safeAgent_congr env (agentFramed_modifyAgent
            (fun agent => { agent with authTimer := false }) (fun _ => rfl) _ _ _) _
        have htimer : (state.tick.clearAuthTimer connection).Crashed ↔ state.Crashed := Iff.rfl
        have hhello := guarded_onHello env connection value
          (state.tick.clearAuthTimer connection)
        simp only [hsafe, htimer] at hhello
        simpa [crashed_voidAsync] using hhello
      | ready =>
        cases agentId with
        | none => simp [htick]
        | some agentId =>
          simpa [crashed_voidAsync, htick] using
            guarded_onAgentFrame env agentId state.tick
      | authenticating | announcing | refused => simp [htick]

theorem crashed_edgeSignal (edge : ℕ) (state : State) (signal : Signal) :
    (edgeSignal env edge state signal).Crashed ↔
      state.Crashed ∨ ¬ SafeEdgeSignal env edge state signal := by
  have htick : state.tick.Crashed ↔ state.Crashed := Iff.rfl
  unfold edgeSignal SafeEdgeSignal
  cases signal with
  | malformed | invalidLength => simp [crashed_destroyEdge, htick]
  | frame value => simp [crashed_frameListener, htick]

/-! ## Events -/

/-- What has to hold for an event to be handled without a fault. -/
def HandledSafely (state : State) : Event → Prop
  | .agentConnect _ | .edgeConnect _ | .agentEnd _ | .edgeEnd _ | .agentError _
  | .authTimeout _ => True
  | .agentData connection chunk => ∀ agent, state.agentConns.get? connection = some agent →
      agent.framed.destroyed = false →
        Along (agentSignal env connection) (SafeAgentSignal env connection)
          (state.keepAgentBytes connection (drain env.codec (agent.framed.buffer ++ chunk)).2)
          (drain env.codec (agent.framed.buffer ++ chunk)).1
  | .edgeData edge chunk => ∀ conn, state.edgeConns.get? edge = some conn →
      conn.framed.destroyed = false →
        Along (edgeSignal env edge) (SafeEdgeSignal env edge)
          (state.keepEdgeBytes edge (drain env.codec (conn.framed.buffer ++ chunk)).2)
          (drain env.codec (conn.framed.buffer ++ chunk)).1
  | .edgeError edge => state.EdgeDestroyed edge
  | .agentClose connection => ∀ agent, state.agentConns.get? connection = some agent →
      agent.gone = false → ∀ agentId, agent.agentId = some agentId →
        SafeDisconnect env (state.endAgent connection) connection agentId
  | .edgeClose edge => ∀ conn, state.edgeConns.get? edge = some conn → conn.gone = false →
      truthy conn.streamId.value → SafeForward env state (state.streams.get? conn.streamId)
        (streamCloseFrame conn.streamId.value "edge_closed")
  | .authenticated connection result => ∀ agent, state.agentConns.get? connection = some agent →
      agent.phase = .authenticating → ∀ error, result = .error error →
        SafeRefusal env state connection error
  | .presenceSettled connection => ∀ agent, state.agentConns.get? connection = some agent →
      agent.phase = .announcing → ∀ agentId, agent.agentId = some agentId →
        SafePresence env state connection agentId
  | .routeResolved id route => ∀ lookup, state.lookups.get? id = some lookup →
      SafeRoute env state lookup route
  | .heartbeatSettled id => ∀ agentId, state.heartbeats.get? id = some agentId →
      SafeToAgent env state agentId (heartbeatAckFrame (env.timestamp state.clock))
  | .timerFired id => ∀ timer, state.timers.get? id = some timer → SafeTimer env state timer

def Benign (state : State) (event : Event) : Prop := HandledSafely env state.tick event

theorem crashed_withAgent {enabled : AgentConnection → Bool} {f : AgentConnection → State}
    {guard : AgentConnection → Prop}
    (h : ∀ agent, (f agent).Crashed ↔ state.Crashed ∨ ¬ guard agent) :
    (withAgent state connection enabled f).Crashed ↔ state.Crashed ∨
      ¬ ∀ agent, state.agentConns.get? connection = some agent → enabled agent = true →
        guard agent := by
  unfold withAgent
  cases hagent : state.agentConns.get? connection with
  | none => simp
  | some agent =>
    cases henabled : enabled agent with
    | false => simp [henabled]
    | true => simp [henabled, h]

theorem crashed_withAgent_of_quiet {enabled : AgentConnection → Bool} {f : AgentConnection → State}
    (h : ∀ agent, (f agent).Crashed ↔ state.Crashed) :
    (withAgent state connection enabled f).Crashed ↔ state.Crashed := by
  unfold withAgent
  split
  · exact Iff.rfl
  · split
    · exact h _
    · exact Iff.rfl

theorem crashed_withEdge_of_quiet {enabled : EdgeConnection → Bool} {f : EdgeConnection → State}
    (h : ∀ conn, (f conn).Crashed ↔ state.Crashed) :
    (withEdge state edge enabled f).Crashed ↔ state.Crashed := by
  unfold withEdge
  split
  · exact Iff.rfl
  · split
    · exact h _
    · exact Iff.rfl

theorem crashed_withEdge {enabled : EdgeConnection → Bool} {f : EdgeConnection → State}
    {guard : EdgeConnection → Prop} (h : ∀ conn, (f conn).Crashed ↔ state.Crashed ∨ ¬ guard conn) :
    (withEdge state edge enabled f).Crashed ↔ state.Crashed ∨
      ¬ ∀ conn, state.edgeConns.get? edge = some conn → enabled conn = true → guard conn := by
  unfold withEdge
  cases hconn : state.edgeConns.get? edge with
  | none => simp
  | some conn =>
    cases henabled : enabled conn with
    | false => simp [henabled]
    | true => simp [henabled, h]

theorem iff_of_quiet {after before p : Prop} (hquiet : after ↔ before) (hp : p) :
    after ↔ before ∨ ¬ p := by
  simp [hquiet, hp]

theorem crashed_presence (agent : AgentConnection) : (match agent.agentId with
    | none => state
    | some agentId => voidAsync (onPresence env connection agentId) state).Crashed ↔
    state.Crashed ∨ ¬ ∀ agentId, agent.agentId = some agentId →
      SafePresence env state connection agentId := by
  cases agent.agentId with
  | none => simp
  | some agentId =>
    simp [crashed_voidAsync, guarded_onPresence env state]

theorem crashed_handle_iff {event : Event} :
    (handle env state event).Crashed ↔ state.Crashed ∨ ¬ HandledSafely env state event := by
  cases event with
  | agentConnect connection | edgeConnect edge =>
    refine iff_of_quiet ?_ trivial
    simp only [handle]
    split <;> rfl
  | agentData connection chunk =>
    have hrun := fun agent : AgentConnection => fault_run_iff (crashed_agentSignal env connection)
      (state.keepAgentBytes connection (drain env.codec (agent.framed.buffer ++ chunk)).2)
      (drain env.codec (agent.framed.buffer ++ chunk)).1
    refine (crashed_withAgent hrun).trans (or_congr Iff.rfl (not_congr ?_))
    simp only [HandledSafely, Bool.not_eq_true']
  | edgeData edge chunk =>
    have hrun := fun conn : EdgeConnection => fault_run_iff (crashed_edgeSignal env edge)
      (state.keepEdgeBytes edge (drain env.codec (conn.framed.buffer ++ chunk)).2)
      (drain env.codec (conn.framed.buffer ++ chunk)).1
    refine (crashed_withEdge hrun).trans (or_congr Iff.rfl (not_congr ?_))
    simp only [HandledSafely, Bool.not_eq_true']
  | agentEnd connection | agentError connection | authTimeout connection =>
    exact iff_of_quiet (crashed_withAgent_of_quiet fun _ => Iff.rfl) trivial
  | edgeEnd edge => exact iff_of_quiet (crashed_withEdge_of_quiet fun _ => Iff.rfl) trivial
  | edgeError edge =>
    have herror : ∀ conn : EdgeConnection, (state.edgeEffect edge conn
        { connection := { conn.framed with destroyed := true }, emitsError := true }).Crashed ↔
        state.Crashed ∨ ¬ False := by
      intro conn
      simp [crashed_edgeEffect]
    refine (crashed_withEdge herror).trans (or_congr Iff.rfl (not_congr ?_))
    simp [HandledSafely, EdgeDestroyed, edgeFramed]
  | agentClose connection =>
    have hclose : ∀ agent : AgentConnection,
        (callback (onAgentClose env connection agent.agentId) (state.endAgent connection)).Crashed ↔
        state.Crashed ∨ ¬ ∀ agentId, agent.agentId = some agentId →
          SafeDisconnect env (state.endAgent connection) connection agentId := fun agent =>
      crashed_callback.trans
        (guarded_onAgentClose env (state.endAgent connection))
    refine (crashed_withAgent hclose).trans (or_congr Iff.rfl (not_congr ?_))
    simp only [HandledSafely, Bool.not_eq_true']
  | edgeClose edge =>
    have hclose : ∀ conn : EdgeConnection,
        (callback (onEdgeClose env conn.streamId) (state.endEdge edge)).Crashed ↔
        state.Crashed ∨ ¬ (truthy conn.streamId.value →
          SafeForward env state (state.streams.get? conn.streamId)
            (streamCloseFrame conn.streamId.value "edge_closed")) := fun conn =>
      crashed_callback.trans (guarded_onEdgeClose env (state.endEdge edge))
    refine (crashed_withEdge hclose).trans (or_congr Iff.rfl (not_congr ?_))
    simp only [HandledSafely, Bool.not_eq_true']
  | authenticated connection result =>
    have hauth := fun _ : AgentConnection => guarded_onAuthenticated env connection result state
    simp only [← crashed_voidAsync] at hauth
    refine (crashed_withAgent hauth).trans (or_congr Iff.rfl (not_congr ?_))
    simp only [HandledSafely, decide_eq_true_eq]
  | presenceSettled connection =>
    refine (crashed_withAgent (crashed_presence env)).trans (or_congr Iff.rfl (not_congr ?_))
    simp only [HandledSafely, decide_eq_true_eq]
  | routeResolved id route =>
    unfold handle HandledSafely
    cases hlookup : state.lookups.get? id with
    | none => simp [hlookup]
    | some lookup =>
      simp only [hlookup, Option.some.injEq, forall_eq']
      exact crashed_voidAsync.trans
        (guarded_onRoute env lookup route (state.forgetLookup id))
  | heartbeatSettled id =>
    unfold handle HandledSafely
    cases hheartbeat : state.heartbeats.get? id with
    | none => simp [hheartbeat]
    | some agentId =>
      simp only [hheartbeat, Option.some.injEq, forall_eq']
      exact crashed_voidAsync.trans
        (guarded_onHeartbeatSettled env agentId (state.forgetHeartbeat id))
  | timerFired id =>
    unfold handle HandledSafely
    cases htimer : state.timers.get? id with
    | none => simp [htimer]
    | some timer =>
      simp only [htimer, Option.some.injEq, forall_eq']
      exact crashed_callback.trans
        (guarded_onTimer env (state.clearTimeout (some id)))

theorem crashed_step_iff (state : State) (event : Event) :
    (step env state event).Crashed ↔ state.Crashed ∨ ¬ Benign env state event := by
  unfold step
  by_cases hcrashed : state.Crashed
  · simp [hcrashed]
  · rw [if_neg hcrashed]
    exact crashed_handle_iff env

/-- A run keeps the process alive exactly when each of its steps is benign. -/
theorem alive_iff_benign (events : List Event) :
    ¬ (run (step env) initial events).Crashed ↔ Along (step env) (Benign env) initial events :=
  not_fault_iff_along (crashed_step_iff env) (by decide)

def emptyHeaderRun : List Event := [.edgeConnect 0, .edgeData 0 [0, 0, 0, 0]]

theorem crashed_emptyHeaderRun : (run (step (.plain [])) initial emptyHeaderRun).Crashed := by
  decide

end Tunnara.Relay
