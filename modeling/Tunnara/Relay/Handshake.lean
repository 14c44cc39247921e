/-
# The order of the handshake

An agent is in `agents` from the moment its hello is accepted, while its
`agent_hello_ok` is written only after the presence update. `Orderly` is the
invariant of the runs in which nothing is written to a connection in between: what
an agent connection has been sent so far fits the phase it is in. Each handler
keeps it when what it writes to agents goes to agents that are not announcing.
-/

import Tunnara.Relay.Traffic

namespace Tunnara.Relay

open State Attempt Transition OrdMap

variable (env : Env)

/-! ## The invariant -/

/-- What a connection has been sent fits its phase. -/
def SentInOrder (agent : AgentConnection) : Prop :=
  match agent.phase with
  | .awaitingHello | .authenticating | .announcing => agent.framed.sent = []
  | .ready => agent.framed.sent = [] ∧ agent.framed.silent = true ∨
      ∃ agentId rest, agent.framed.sent = helloOkFrame agentId :: rest
  | .refused => agent.framed.sent = [] ∨ ∃ error, agent.framed.sent = [errorFrame error]

/-- A connection that `agents` may refer to. -/
def MayBeListed (agent : AgentConnection) : Prop :=
  match agent.phase with
  | .awaitingHello | .authenticating => False
  | .announcing | .ready => True
  | .refused => agent.framed.silent = true ∨ agent.framed.ended = true

/-- The agent connections and `agents` of a state, in an order that goes on from
earlier connections. -/
structure Orderly (before conns : OrdMap ℕ AgentConnection) (agents : OrdMap String ℕ) :
    Prop where
  sent : ∀ connection agent, conns.get? connection = some agent → SentInOrder agent
  listed : ∀ agentId connection, agents.get? agentId = some connection →
    ∃ agent, conns.get? connection = some agent ∧ MayBeListed agent
  refused : ∀ connection agent, before.get? connection = some agent → agent.phase = .refused →
    ∃ later, conns.get? connection = some later ∧ later.phase = .refused

variable {before conns conns' : OrdMap ℕ AgentConnection} {agents : OrdMap String ℕ}

variable {connection edge : ℕ} {agent : AgentConnection} {f : AgentConnection → AgentConnection}
  {state : State} {payload : Json} {guard : State → Prop} {after : State → State}

theorem Orderly.replace (h : Orderly before conns agents) {later : AgentConnection}
    (hagent : conns.get? connection = some agent) (hconns : ∀ other, conns'.get? other =
      if other = connection then some later else conns.get? other) (hsent : SentInOrder later)
    (hlisted : ∀ agentId, agents.get? agentId = some connection → MayBeListed agent →
      MayBeListed later) (hrefused : agent.phase = .refused → later.phase = .refused) :
    Orderly before conns' agents where
  sent other found hfound := by
    rw [hconns] at hfound
    split at hfound
    · cases hfound
      exact hsent
    · exact h.sent other found hfound
  listed agentId other hother := by
    obtain ⟨found, hfound, hmay⟩ := h.listed agentId other hother
    rw [hconns]
    by_cases heq : other = connection
    · subst heq
      rw [hagent] at hfound
      cases hfound
      exact ⟨later, if_pos rfl, hlisted agentId hother hmay⟩
    · exact ⟨found, by rw [if_neg heq, hfound], hmay⟩
  refused other found hfound hphase := by
    obtain ⟨middle, hmiddle, hmphase⟩ := h.refused other found hfound hphase
    rw [hconns]
    by_cases heq : other = connection
    · subst heq
      rw [hagent] at hmiddle
      cases hmiddle
      exact ⟨later, if_pos rfl, hrefused hmphase⟩
    · exact ⟨middle, by rw [if_neg heq, hmiddle], hmphase⟩

theorem Orderly.update (h : Orderly before conns agents)
    (hagent : conns.get? connection = some agent) (f : AgentConnection → AgentConnection)
    (hsent : SentInOrder (f agent)) (hlisted : MayBeListed agent → MayBeListed (f agent))
    (hrefused : agent.phase = .refused → (f agent).phase = .refused) :
    Orderly before (conns.update connection f) agents := by
  refine h.replace hagent ?_ hsent (fun _ _ => hlisted) hrefused
  intro other
  by_cases heq : other = connection
  · subst heq
    rw [get?_update_self, hagent, if_pos rfl, Option.map_some]
  · rw [get?_update_of_ne conns heq, if_neg heq]

/-- An update that leaves the phase and the frames sent as they are, and never makes
a silent or ended connection speak again. -/
structure Tame (f : AgentConnection → AgentConnection) : Prop where
  phase : ∀ agent, (f agent).phase = agent.phase
  sent : ∀ agent, (f agent).framed.sent = agent.framed.sent
  silent : ∀ agent, agent.framed.silent = true → (f agent).framed.silent = true
  ended : ∀ agent, agent.framed.ended = true → (f agent).framed.ended = true

theorem Tame.sentInOrder (hf : Tame f) (h : SentInOrder agent) : SentInOrder (f agent) := by
  unfold SentInOrder at h ⊢
  rw [hf.phase agent, hf.sent agent]
  cases hphase : agent.phase with
  | ready =>
    rw [hphase] at h
    exact h.imp (fun hno => ⟨hno.1, hf.silent agent hno.2⟩) id
  | _ => rwa [hphase] at h

theorem Tame.mayBeListed (hf : Tame f) (h : MayBeListed agent) : MayBeListed (f agent) := by
  unfold MayBeListed at h ⊢
  rw [hf.phase agent]
  cases hphase : agent.phase with
  | refused =>
    rw [hphase] at h
    exact h.imp (hf.silent agent) (hf.ended agent)
  | _ => rwa [hphase] at h

theorem Orderly.modify (hf : Tame f) (h : Orderly before conns agents) (connection : ℕ) :
    Orderly before (conns.update connection f) agents := by
  cases hagent : conns.get? connection with
  | none =>
    have hsame : ∀ other, (conns.update connection f).get? other = conns.get? other := by
      intro other
      by_cases heq : other = connection
      · subst heq
        rw [get?_update_self, hagent, Option.map_none]
      · exact get?_update_of_ne conns heq f
    exact ⟨fun other found hfound => h.sent other found ((hsame other).symm.trans hfound),
      fun agentId other hother => by simpa only [hsame] using h.listed agentId other hother,
      fun other found hfound hphase => by simpa only [hsame] using h.refused other found hfound hphase⟩
  | some agent =>
    exact h.update hagent f (hf.sentInOrder (h.sent connection agent hagent)) hf.mayBeListed
      fun hphase => (hf.phase agent).trans hphase

section

variable (h : Orderly before conns agents)
include h

theorem Orderly.list (hagent : conns.get? connection = some agent) (hmay : MayBeListed agent)
    (agentId : String) :
    Orderly before conns (agents.set agentId connection) where
  sent := h.sent
  listed other found hfound := by
    rw [get?_set] at hfound
    split at hfound
    · cases hfound
      exact ⟨agent, hagent, hmay⟩
    · exact h.listed other found hfound
  refused := h.refused

theorem Orderly.unlist (agentId : String) :
    Orderly before conns (agents.erase agentId) where
  sent := h.sent
  listed other found hfound := h.listed other found (get?_of_get?_erase hfound).2
  refused := h.refused

theorem Orderly.unlistAll : Orderly before conns .empty where
  sent := h.sent
  listed _ _ hnone := by simp at hnone
  refused := h.refused

theorem Orderly.rebase : Orderly conns conns agents where
  sent := h.sent
  listed := h.listed
  refused _ agent hagent hphase := ⟨agent, hagent, hphase⟩

end

theorem orderly_empty : Orderly .empty .empty .empty where
  sent _ _ hnone := by simp at hnone
  listed _ _ hnone := by simp at hnone
  refused _ _ hnone := by simp at hnone

theorem tame_destroy :
    Tame fun agent => { agent with framed := agent.framed.destroy.connection } where
  phase _ := rfl
  sent _ := rfl
  silent _ _ := rfl
  ended _ h := h

theorem tame_clearAuthTimer : Tame fun agent => { agent with authTimer := false } where
  phase _ := rfl
  sent _ := rfl
  silent _ h := h
  ended _ h := h

theorem tame_keepBytes {rest : List UInt8} :
    Tame fun agent => { agent with framed.buffer := rest } where
  phase _ := rfl
  sent _ := rfl
  silent _ h := h
  ended _ h := h

theorem tame_ended : Tame fun agent => { agent with framed.ended := true } where
  phase _ := rfl
  sent _ := rfl
  silent _ h := h
  ended _ _ := rfl

theorem tame_failed : Tame fun agent => { agent with framed.destroyed := true } where
  phase _ := rfl
  sent _ := rfl
  silent _ _ := by simp [FramedConnection.silent]
  ended _ h := h

theorem tame_gone : Tame fun agent => { agent with
    gone := true, authTimer := false, framed.closed := true, framed.destroyed := true } where
  phase _ := rfl
  sent _ := rfl
  silent _ _ := rfl
  ended _ h := h

/-! ## Sending -/

def InOrder (before : OrdMap ℕ AgentConnection) (state : State) : Prop :=
  Orderly before state.agentConns state.agents

theorem inOrder_modifyAgent (hf : Tame f) (h : InOrder before state) :
    InOrder before (state.modifyAgent connection f) :=
  Orderly.modify hf h connection

/-- The agent's current connection does not wait for its presence update. -/
def Announced (state : State) (agentId : String) : Prop :=
  ∀ connection, state.agents.get? agentId = some connection →
    ∀ agent, state.agentConns.get? connection = some agent → agent.phase ≠ .announcing

instance (state : State) (agentId : String) : Decidable (Announced state agentId) :=
  inferInstanceAs (Decidable (∀ _, _ = some _ → ∀ _, _ = some _ → _ ≠ _))

theorem sentInOrder_of_send {effect : Effect}
    (hsend : agent.framed.send env.codec payload = .ok effect) (h : SentInOrder agent)
    (hmay : MayBeListed agent) (hphase : agent.phase ≠ .announcing) :
    SentInOrder { agent with framed := effect.connection } ∧
      MayBeListed { agent with framed := effect.connection } := by
  rcases FramedConnection.send_cases hsend with ⟨-, rfl⟩ | ⟨hsilent, -, hended, rfl⟩ |
    ⟨hsilent, -, hended, rfl⟩
  · exact ⟨h, hmay⟩
  · -- the socket fails and writes nothing
    unfold SentInOrder MayBeListed at *
    cases hcase : agent.phase with
    | ready =>
      rw [hcase] at h
      exact ⟨h.imp (fun hno => by simp [hsilent] at hno) id, trivial⟩
    | refused =>
      rw [hcase] at h
      exact ⟨h, .inr hended⟩
    | announcing => exact absurd hcase hphase
    | awaitingHello | authenticating => simp [hcase] at hmay
  · unfold SentInOrder MayBeListed at *
    cases hcase : agent.phase with
    | ready =>
      rw [hcase] at h
      rcases h with ⟨-, hno⟩ | ⟨agentId, rest, hsent⟩
      · simp [hsilent] at hno
      · exact ⟨.inr ⟨agentId, rest ++ [payload], by rw [hsent, List.cons_append]⟩, trivial⟩
    | refused =>
      rw [hcase] at hmay
      simp [hsilent, hended] at hmay
    | announcing => exact absurd hcase hphase
    | awaitingHello | authenticating => simp [hcase] at hmay

variable {payload : Json}

theorem keeps_inOrder_sendAgent :
    Keeps (InOrder before)
      (fun state => ∃ agentId, state.agents.get? agentId = some connection ∧
        Announced state agentId)
      (sendAgent env connection payload) := by
  refine keeps_sendAgent env ?_
  rintro state agent effect h ⟨agentId, hlisted, hannounced⟩ hagent hsend
  obtain ⟨found, hfound, hmay⟩ := h.listed agentId connection hlisted
  rw [hagent] at hfound
  cases hfound
  have hphase := hannounced connection hlisted agent hagent
  obtain ⟨hsent, hlater⟩ :=
    sentInOrder_of_send env hsend (h.sent connection agent hagent) hmay hphase
  exact h.replace hagent (fun other => get?_set ..) hsent (fun _ _ _ => hlater) id

variable {agentId : String}

theorem keeps_inOrder_sendToAgent :
    Keeps (InOrder before) (fun state => Announced state agentId)
      (sendToAgent env agentId payload) := by
  refine keeps_sendToAgent env fun connection => ?_
  refine (keeps_inOrder_sendAgent env).mono ?_
  rintro state ⟨hannounced, hlisted⟩
  exact ⟨agentId, hlisted, hannounced⟩

theorem readsAgents_inOrder : ReadsAgents (InOrder before) := by
  intro state next h hconns hagents
  unfold InOrder
  rw [hconns, hagents]
  exact h

theorem inOrder_voidAsync {handler : Handler} (hkeeps : Keeps (InOrder before) guard handler)
    (h : InOrder before state) (hguard : guard state) : InOrder before (voidAsync handler state) :=
  keeps_voidAsync (fun _ _ h => h) hkeeps h hguard

theorem inOrder_callback {handler : Handler} (hkeeps : Keeps (InOrder before) guard handler)
    (h : InOrder before state) (hguard : guard state) : InOrder before (callback handler state) :=
  keeps_callback (fun _ _ h => h) hkeeps h hguard

/-! ## Handlers that write to agents -/

/-- A frame for the agent of an entry meets a connection that has announced itself. -/
def QuietForward (state : State) (entry : Option Entry) : Prop :=
  ∀ found, entry = some found → Announced state found.agentId

instance (state : State) (entry : Option Entry) : Decidable (QuietForward state entry) :=
  inferInstanceAs (Decidable (∀ _, _ = some _ → Announced _ _))

theorem keeps_inOrder_forward {entry : Option Entry} :
    Keeps (InOrder before) (fun state => QuietForward state entry)
      (forward env entry payload) := by
  cases entry with
  | none => exact keeps_pure
  | some entry =>
    exact (keeps_inOrder_sendToAgent env).mono fun _ h => h entry rfl

@[mk_iff]
structure QuietEdgeFrame (state : State) (edge : ℕ) (frame : Json) : Prop where
  udpClose : hasType frame "udp_close" → QuietForward state (named state state.udpSessions frame "sessionId")
  stream : hasType frame "stream_data" ∨ hasType frame "stream_close" →
    truthy (state.streamIdOf edge).value →
    QuietForward state (state.streams.get? (state.streamIdOf edge))

instance (state : State) (edge : ℕ) (frame : Json) :
    Decidable (QuietEdgeFrame state edge frame) :=
  decidable_of_iff _ (quietEdgeFrame_iff state edge frame).symm

theorem keeps_inOrder_onEdgeFrame {edge : ℕ} {frame : Json} :
    Keeps (InOrder before) (fun state => QuietEdgeFrame state edge frame)
      (onEdgeFrame env edge frame) := by
  apply (readsAgents_inOrder.keeps_onEdgeFrame env QuietForward
    fun entry => keeps_inOrder_forward env).mono
  exact fun _ hquiet => ⟨hquiet.udpClose, hquiet.stream⟩

theorem inOrder_frameListener {frame : Json} (h : InOrder before state)
    (hquiet : QuietEdgeFrame state edge frame) :
    InOrder before (frameListener edge (onEdgeFrame env edge frame) state) := by
  have hafter := keeps_inOrder_onEdgeFrame env state h hquiet
  unfold frameListener
  split
  · rename_i hexec
    rwa [hexec] at hafter
  · rename_i hexec
    rw [hexec] at hafter
    exact readsAgents_inOrder.booked.destroyEdge hafter edge

theorem keeps_inOrder_onHeartbeatSettled :
    Keeps (InOrder before) (fun state => Announced state agentId)
      (onHeartbeatSettled env agentId) :=
  Keeps.get_bind fun _ => (keeps_inOrder_sendToAgent env).mono fun _ hquiet => hquiet.1

theorem keeps_inOrder_onAgentFrame {frame : Json} :
    Keeps (InOrder before)
      (fun state => hasType frame "heartbeat" → env.distributed = false → Announced state agentId)
      (onAgentFrame env agentId frame) :=
  readsAgents_inOrder.booked.keeps_onAgentFrame env frame
    fun _ => keeps_inOrder_sendToAgent env

/-! ## The handshake itself -/

theorem refuse_cases (hagent : state.agentConns.get? connection = some agent) {error : JsError} :
    ∃ framed, (∀ other, (exec (refuse env connection error) state).2.agentConns.get? other =
        if other = connection then some { agent with phase := .refused, framed }
        else state.agentConns.get? other) ∧
      (exec (refuse env connection error) state).2.agents = state.agents ∧
      (framed.sent = agent.framed.sent ∨ framed.sent = agent.framed.sent ++ [errorFrame error]) ∧
      ((∃ thrown, (exec (refuse env connection error) state).1 = .error thrown) ∨
        framed.silent = true ∨ framed.ended = true) := by
  have hphase : (state.setPhase connection .refused).agentConns.get? connection =
      some { agent with phase := .refused } := by
    simp only [setPhase, modifyAgent, get?_update_self, hagent, Option.map_some]
  have hother : ∀ other, other ≠ connection →
      (state.setPhase connection .refused).agentConns.get? other = state.agentConns.get? other :=
    fun other hne => get?_update_of_ne _ hne _
  rw [refuse, exec_bind, exec_modify]
  simp only [exec_bind, exec_sendAgent, hphase]
  cases hsend : agent.framed.send env.codec (errorFrame error) with
  | error thrown =>
    refine ⟨agent.framed, ?_, rfl, .inl rfl, .inl ⟨thrown, rfl⟩⟩
    intro other
    by_cases heq : other = connection
    · subst heq
      simpa using hphase
    · simpa [heq] using hother other heq
  | ok effect =>
    refine ⟨effect.connection.close, ?_, rfl, ?_, .inr ?_⟩
    · intro other
      by_cases heq : other = connection
      · subst heq
        simp [closeAgent, modifyAgent, agentEffect, putAgent]
      · simp only [exec_modify, closeAgent, modifyAgent, agentEffect, putAgent]
        rw [get?_update_of_ne _ heq, get?_set_of_ne _ heq, hother other heq, if_neg heq]
    · have hclose : effect.connection.close.sent = effect.connection.sent := by
        unfold FramedConnection.close
        split <;> rfl
      rw [hclose]
      rcases FramedConnection.send_cases hsend with ⟨-, rfl⟩ | ⟨-, -, -, rfl⟩ | ⟨-, -, -, rfl⟩
      · exact .inl rfl
      · exact .inl rfl
      · exact .inr rfl
    · unfold FramedConnection.close FramedConnection.silent
      by_cases hclosed : effect.connection.closed = true
      · simp [hclosed]
      · simp [hclosed]

section

variable (h : InOrder before state)
include h

section

variable (hagent : state.agentConns.get? connection = some agent)
include hagent

theorem inOrder_refuse (hsent : agent.framed.sent = []) (hlisted : ¬ MayBeListed agent)
    {error : JsError} : InOrder before (exec (refuse env connection error) state).2 := by
  obtain ⟨framed, hconns, hagents, hframed, -⟩ := refuse_cases env hagent
  unfold InOrder
  rw [hagents]
  refine h.replace hagent hconns ?_ (fun _ _ hmay => absurd hmay hlisted) (fun _ => rfl)
  rw [hsent] at hframed
  exact hframed.imp id fun hone => ⟨error, hone⟩

theorem inOrder_onHello (hphase : agent.phase = .awaitingHello) (hello : Json) :
    InOrder before (exec (onHello env connection hello) state).2 := by
  have hsent := h.sent connection agent hagent
  simp only [SentInOrder, hphase] at hsent
  have hlisted : ¬ MayBeListed agent := by simp [MayBeListed, hphase]
  unfold onHello
  cases helloError hello with
  | some error => exact inOrder_refuse env h hagent hsent hlisted
  | none =>
    refine h.update hagent (fun agent => { agent with phase := .authenticating }) hsent ?_ ?_
    · intro hmay
      exact absurd hmay hlisted
    · intro hrefused
      simp [hphase] at hrefused

theorem inOrder_register (hphase : agent.phase = .authenticating) {agentId : String} :
    InOrder before (state.register connection agentId) := by
  have hsent := h.sent connection agent hagent
  simp only [SentInOrder, hphase] at hsent
  have hlater : Orderly before (state.agentConns.update connection fun agent =>
      { agent with agentId := some agentId, phase := .announcing }) state.agents :=
    h.update hagent (fun agent => { agent with agentId := some agentId, phase := .announcing })
      hsent (fun _ => trivial) fun hrefused => by simp [hphase] at hrefused
  have hfound : (state.agentConns.update connection fun agent =>
      { agent with agentId := some agentId, phase := .announcing }).get? connection =
      some { agent with agentId := some agentId, phase := .announcing } := by
    rw [get?_update_self, hagent, Option.map_some]
  unfold register
  dsimp only [modifyAgent]
  cases hold : state.agents.get? agentId with
  | none => exact hlater.list hfound trivial agentId
  | some old =>
    have hdestroyed := hlater.modify tame_destroy old
    have hstill : ∃ found, ((state.agentConns.update connection fun agent =>
        { agent with agentId := some agentId, phase := .announcing }).update old fun agent =>
          { agent with framed := agent.framed.destroy.connection }).get? connection =
          some found ∧ found.phase = .announcing := by
      by_cases heq : connection = old
      · subst heq
        rw [get?_update_self, hfound]
        exact ⟨_, rfl, rfl⟩
      · rw [get?_update_of_ne _ heq, hfound]
        exact ⟨_, rfl, rfl⟩
    obtain ⟨found, hstill, hannouncing⟩ := hstill
    exact hdestroyed.list hstill (by simp [MayBeListed, hannouncing]) agentId

theorem inOrder_onAuthenticated (hphase : agent.phase = .authenticating)
    (result : Except JsError String) :
    InOrder before (exec (onAuthenticated env connection result) state).2 := by
  cases result with
  | error error =>
    have hsent := h.sent connection agent hagent
    simp only [SentInOrder, hphase] at hsent
    exact inOrder_refuse env h hagent hsent (by simp [MayBeListed, hphase])
  | ok agentId => exact inOrder_register h hagent hphase

theorem inOrder_refuse_listed (hsent : agent.framed.sent = []) {error : JsError} :
    InOrder before (exec (refuse env connection error) state).2 ∨
      ((∃ thrown, (exec (refuse env connection error) state).1 = .error thrown) ∧
        Orderly before (exec (refuse env connection error) state).2.agentConns .empty) := by
  obtain ⟨framed, hconns, hagents, hframed, hended⟩ := refuse_cases env hagent
  have hlater : SentInOrder { agent with phase := .refused, framed } := by
    rw [hsent] at hframed
    exact hframed.imp id fun hone => ⟨error, hone⟩
  rcases hended with hthrown | hended
  · exact .inr ⟨hthrown, h.unlistAll.replace hagent hconns hlater
      (fun _ hnone => by simp at hnone) fun _ => rfl⟩
  · refine .inl ?_
    unfold InOrder
    rw [hagents]
    exact h.replace hagent hconns hlater (fun _ _ _ => hended) fun _ => rfl

theorem inOrder_onPresence (hphase : agent.phase = .announcing) (agentId : String) :
    InOrder before (exec (onPresence env connection agentId) state).2 ∨
      ((∃ thrown, (exec (onPresence env connection agentId) state).1 = .error thrown) ∧
        Orderly before (exec (onPresence env connection agentId) state).2.agentConns .empty) := by
  have hsent := h.sent connection agent hagent
  simp only [SentInOrder, hphase] at hsent
  rw [onPresence, exec_bind, exec_get]
  cases hstore : env.presenceError state.clock with
  | some error => simpa only [hstore] using inOrder_refuse_listed env h hagent hsent
  | none =>
    simp only [hstore, exec_tryCatch, exec_bind, exec_sendAgent, hagent]
    cases hsend : agent.framed.send env.codec (helloOkFrame agentId) with
    | error error => exact inOrder_refuse_listed env h hagent hsent
    | ok effect =>
      have hgreeted : SentInOrder
          { agent with phase := .ready, framed := effect.connection } := by
        rcases FramedConnection.send_cases hsend with ⟨hsilent, rfl⟩ | ⟨-, -, -, rfl⟩ |
          ⟨-, -, -, rfl⟩
        · exact .inl ⟨hsent, hsilent⟩
        · exact .inl ⟨hsent, by simp [FramedConnection.silent]⟩
        · exact .inr ⟨agentId, [], by simp [hsent]⟩
      refine .inl (h.replace hagent ?_ hgreeted (fun _ _ _ => trivial)
        fun hrefused => by simp [hphase] at hrefused)
      intro other
      by_cases heq : other = connection
      · subst heq
        simp [exec_modify, setPhase, modifyAgent, agentEffect, putAgent]
      · simp only [exec_modify, setPhase, modifyAgent, agentEffect, putAgent]
        rw [get?_update_of_ne _ heq, get?_set_of_ne _ heq, if_neg heq]

end

end

/-! ## The other handlers -/

theorem inOrder_leave (h : InOrder before state) :
    InOrder before (state.leave env connection agentId) := by
  unfold leave
  split
  · have hleft := h.unlist agentId
    unfold goOffline
    dsimp only
    split <;> exact hleft
  · exact h

theorem keeps_inOrder_onAgentClose {agentId : Option String} :
    Keeps (InOrder before) (fun _ => True) (onAgentClose env connection agentId) :=
  readsAgents_inOrder.keeps_onAgentClose env fun _ _ h => inOrder_leave env h

theorem keeps_inOrder_onEdgeClose {streamId : Key} :
    Keeps (InOrder before)
      (fun state => truthy streamId.value → QuietForward state (state.streams.get? streamId))
      (onEdgeClose env streamId) :=
  readsAgents_inOrder.keeps_onEdgeClose env QuietForward
    fun _ => keeps_inOrder_forward env

/-! ## Routes -/

/-- The request is handed to a connection that has announced itself. -/
def QuietRoute (state : State) (lookup : Lookup) (route : Route) : Prop :=
  ∀ target, addressee lookup route = some target → Announced state target.agentId

instance (state : State) (lookup : Lookup) (route : Route) :
    Decidable (QuietRoute state lookup route) :=
  inferInstanceAs (Decidable (∀ _, _ = some _ → Announced _ _))

theorem keeps_inOrder_onRoute {lookup : Lookup} {route : Route} :
    Keeps (InOrder before) (fun state => QuietRoute state lookup route)
      (onRoute env lookup route) := by
  apply readsAgents_inOrder.booked.keeps_onRoute env
  · intro state next agentId hannounced hconns hagents
    unfold Announced
    rw [hconns, hagents]
    exact hannounced
  · intro agentId connection payload _
    apply (keeps_inOrder_sendAgent env).mono
    exact fun _ hguard => ⟨agentId, hguard⟩

/-! ## Steps -/

/-- The acknowledgement of a heartbeat meets a connection that has announced itself. -/
def QuietAgentSignal (connection : ℕ) (state : State) : Signal → Prop
  | .frame value => ∀ agent, state.agentConns.get? connection = some agent →
      agent.phase = .ready → ∀ agentId, agent.agentId = some agentId →
        hasType value "heartbeat" → env.distributed = false → Announced state agentId
  | _ => True

instance (connection : ℕ) (state : State) :
    ∀ signal, Decidable (QuietAgentSignal env connection state signal)
  | .frame _ => inferInstanceAs (Decidable (∀ _, _ = some _ → _ = _ → ∀ _, _ = some _ →
      _ = true → _ = false → Announced _ _))
  | .malformed => isTrue trivial
  | .invalidLength => isTrue trivial

def QuietEdgeSignal (edge : ℕ) (state : State) : Signal → Prop
  | .frame value => QuietEdgeFrame state.tick edge value
  | _ => True

instance (edge : ℕ) (state : State) : ∀ signal, Decidable (QuietEdgeSignal edge state signal)
  | .frame _ => inferInstanceAs (Decidable (QuietEdgeFrame _ _ _))
  | .malformed => isTrue trivial
  | .invalidLength => isTrue trivial

/-- The step writes nothing to an agent that waits for its presence update. -/
def Quiet (state : State) : Event → Prop
  | .agentData connection chunk => ∀ agent, state.agentConns.get? connection = some agent →
      Along (agentSignal env connection) (QuietAgentSignal env connection)
        (state.tick.keepAgentBytes connection (drain env.codec (agent.framed.buffer ++ chunk)).2)
        (drain env.codec (agent.framed.buffer ++ chunk)).1
  | .edgeData edge chunk => ∀ conn, state.edgeConns.get? edge = some conn →
      Along (edgeSignal env edge) (QuietEdgeSignal edge)
        (state.tick.keepEdgeBytes edge (drain env.codec (conn.framed.buffer ++ chunk)).2)
        (drain env.codec (conn.framed.buffer ++ chunk)).1
  | .edgeClose edge => ∀ conn, state.edgeConns.get? edge = some conn → conn.gone = false →
      truthy conn.streamId.value → QuietForward state (state.streams.get? conn.streamId)
  | .routeResolved id route => ∀ lookup, state.lookups.get? id = some lookup →
      QuietRoute state lookup route
  | .heartbeatSettled id => ∀ agentId, state.heartbeats.get? id = some agentId →
      Announced state agentId
  | _ => True

instance (state : State) : ∀ event, Decidable (Quiet env state event)
  | .agentData _ _ => inferInstanceAs (Decidable (∀ _, _ = some _ → Along _ _ _ _))
  | .edgeData _ _ => inferInstanceAs (Decidable (∀ _, _ = some _ → Along _ _ _ _))
  | .edgeClose _ => inferInstanceAs (Decidable (∀ _, _ = some _ → _ = _ → _ = true →
      QuietForward _ _))
  | .routeResolved _ _ => inferInstanceAs (Decidable (∀ _, _ = some _ → QuietRoute _ _ _))
  | .heartbeatSettled _ => inferInstanceAs (Decidable (∀ _, _ = some _ → Announced _ _))
  | .agentConnect _ | .edgeConnect _ | .agentEnd _ | .edgeEnd _ | .agentError _ | .edgeError _
  | .agentClose _ | .authTimeout _ | .authenticated _ _ | .presenceSettled _
  | .timerFired _ => isTrue trivial

theorem inOrder_agentSignal {signal : Signal} (h : InOrder before state)
    (hquiet : QuietAgentSignal env connection state signal) :
    InOrder before (agentSignal env connection state signal) := by
  cases signal with
  | malformed | invalidLength => exact inOrder_modifyAgent tame_destroy h
  | frame value =>
    unfold agentSignal
    dsimp only
    cases hagent : state.tick.agentConns.get? connection with
    | none => exact h
    | some agent =>
      obtain ⟨framed, phase, agentId, authTimer, gone⟩ := agent
      cases phase with
      | awaitingHello =>
        have hcleared : InOrder before (state.tick.clearAuthTimer connection) :=
          inOrder_modifyAgent tame_clearAuthTimer h
        have hfound : (state.tick.clearAuthTimer connection).agentConns.get? connection =
            some ⟨framed, .awaitingHello, agentId, false, gone⟩ := by
          simp only [clearAuthTimer, modifyAgent, get?_update_self, hagent, Option.map_some]
        have hhello := inOrder_onHello env hcleared hfound rfl value
        dsimp only
        unfold voidAsync
        split <;> (rename_i hexec; rw [hexec] at hhello; exact hhello)
      | ready =>
        cases agentId with
        | none => exact h
        | some agentId =>
          exact inOrder_voidAsync (keeps_inOrder_onAgentFrame env) h
            (hquiet _ hagent rfl agentId rfl)
      | authenticating | announcing | refused => exact h

theorem inOrder_edgeSignal {signal : Signal} (h : InOrder before state)
    (hquiet : QuietEdgeSignal edge state signal) :
    InOrder before (edgeSignal env edge state signal) := by
  have htick : InOrder before state.tick := h
  cases signal with
  | malformed | invalidLength => exact readsAgents_inOrder.booked.destroyEdge htick edge
  | frame value => exact inOrder_frameListener env h hquiet

/-- The invariant between two steps: after the end of the process nothing is written. -/
def Ordered (before : OrdMap ℕ AgentConnection) (state : State) : Prop :=
  InOrder before state ∨ state.Crashed ∧ Orderly before state.agentConns .empty

theorem inOrder_withAgent {enabled : AgentConnection → Bool} {f : AgentConnection → State}
    (h : InOrder before state)
    (hf : ∀ agent, state.agentConns.get? connection = some agent → enabled agent = true →
      InOrder before (f agent)) : InOrder before (withAgent state connection enabled f) := by
  unfold withAgent
  split
  · exact h
  · split
    · exact hf _ ‹_› ‹_›
    · exact h

theorem inOrder_withEdge {enabled : EdgeConnection → Bool} {f : EdgeConnection → State}
    (h : InOrder before state)
    (hf : ∀ conn, state.edgeConns.get? edge = some conn → enabled conn = true →
      InOrder before (f conn)) : InOrder before (withEdge state edge enabled f) := by
  unfold withEdge
  split
  · exact h
  · split
    · exact hf _ ‹_› ‹_›
    · exact h

theorem inOrder_agentConnect (h : InOrder before state) :
    InOrder before (handle env state (.agentConnect connection)) := by
  simp only [handle]
  split
  · exact h
  · rename_i hnew
    have hnone : state.agentConns.get? connection = none := by simpa using hnew
    have hconns : ∀ other, (state.putAgent connection {}).agentConns.get? other =
        if other = connection then some {} else state.agentConns.get? other :=
      fun other => get?_set ..
    have hother : ∀ {other found}, state.agentConns.get? other = some found →
        (state.putAgent connection {}).agentConns.get? other = some found := by
      intro other found hfound
      rw [hconns, if_neg, hfound]
      rintro rfl
      simp [hnone] at hfound
    refine ⟨?_, ?_, ?_⟩
    · intro other found hfound
      rw [hconns] at hfound
      split at hfound
      · cases hfound
        exact rfl
      · exact h.sent other found hfound
    · intro agentId other hlisted
      obtain ⟨found, hfound, hmay⟩ := h.listed agentId other hlisted
      exact ⟨found, hother hfound, hmay⟩
    · intro other found hfound hphase
      obtain ⟨later, hlater, hlphase⟩ := h.refused other found hfound hphase
      exact ⟨later, hother hlater, hlphase⟩

theorem ordered_presenceSettled (h : InOrder before state) :
    Ordered before (handle env state (.presenceSettled connection)) := by
  simp only [handle, withAgent]
  cases hagent : state.agentConns.get? connection with
  | none => exact .inl h
  | some agent =>
    dsimp only
    split_ifs with hphase
    · cases agent.agentId with
      | none => exact .inl h
      | some agentId =>
        have hpresence := inOrder_onPresence env h hagent (of_decide_eq_true hphase) agentId
        dsimp only
        unfold voidAsync
        cases hexec : exec (onPresence env connection agentId) state with
        | mk result next =>
          rw [hexec] at hpresence
          cases result with
          | ok _ => exact .inl (hpresence.resolve_right fun hthrown => by simp at hthrown)
          | error thrown =>
            exact hpresence.imp id fun hthrown => ⟨crashed_raise, hthrown.2⟩
    · exact .inl h

theorem ordered_handle {event : Event} (h : InOrder before state.tick)
    (hquiet : Quiet env state event) : Ordered before (handle env state.tick event) := by
  cases event with
  | agentConnect connection => exact .inl (inOrder_agentConnect env h)
  | edgeConnect edge =>
    refine .inl ?_
    simp only [handle]
    split <;> exact h
  | agentData connection chunk =>
    refine .inl (inOrder_withAgent h fun agent hagent _ => ?_)
    exact (hquiet agent hagent).invariant (fun _ _ => inOrder_agentSignal env)
      (inOrder_modifyAgent tame_keepBytes h)
  | edgeData edge chunk =>
    refine .inl (inOrder_withEdge h fun conn hconn _ => ?_)
    exact (hquiet conn hconn).invariant (fun _ _ => inOrder_edgeSignal env) h
  | agentEnd connection =>
    exact .inl (inOrder_withAgent h fun _ _ _ => inOrder_modifyAgent tame_ended h)
  | edgeEnd edge => exact .inl (inOrder_withEdge h fun _ _ _ => h)
  | agentError connection =>
    exact .inl (inOrder_withAgent h fun _ _ _ => inOrder_modifyAgent tame_failed h)
  | edgeError edge =>
    refine .inl (inOrder_withEdge h fun _ _ _ => ?_)
    exact h
  | agentClose connection =>
    refine .inl (inOrder_withAgent h fun agent _ _ => ?_)
    exact inOrder_callback (keeps_inOrder_onAgentClose env)
      (inOrder_modifyAgent tame_gone h) trivial
  | edgeClose edge =>
    refine .inl (inOrder_withEdge h fun conn hconn hgone => ?_)
    exact inOrder_callback (keeps_inOrder_onEdgeClose env) h
      (hquiet conn hconn (by simpa using hgone))
  | authTimeout connection =>
    refine .inl (inOrder_withAgent h fun _ _ _ => ?_)
    exact inOrder_modifyAgent tame_destroy (inOrder_modifyAgent tame_clearAuthTimer h)
  | authenticated connection result =>
    refine .inl (inOrder_withAgent h fun agent hagent hphase => ?_)
    have hauth := inOrder_onAuthenticated env h hagent (of_decide_eq_true hphase) result
    unfold voidAsync
    split <;> (rename_i hexec; rw [hexec] at hauth; exact hauth)
  | presenceSettled connection => exact ordered_presenceSettled env h
  | routeResolved id route =>
    refine .inl ?_
    simp only [handle]
    split
    · exact h
    · exact inOrder_voidAsync (keeps_inOrder_onRoute env) h (hquiet _ ‹_›)
  | heartbeatSettled id =>
    refine .inl ?_
    simp only [handle]
    split
    · exact h
    · exact inOrder_voidAsync (keeps_inOrder_onHeartbeatSettled env) h (hquiet _ ‹_›)
  | timerFired id =>
    refine .inl ?_
    simp only [handle]
    split
    · exact h
    · exact inOrder_callback (readsAgents_inOrder.booked.keeps_onTimer env _) h trivial

theorem Ordered.rebase (h : Ordered before state) : Ordered state.agentConns state :=
  h.imp Orderly.rebase fun hcrashed => ⟨hcrashed.1, hcrashed.2.rebase⟩

theorem ordered_step {event : Event} (h : Ordered before state) (hquiet : Quiet env state event) :
    Ordered before (step env state event) := by
  unfold step
  split
  · exact h
  · rename_i halive
    exact ordered_handle env (h.resolve_right fun hcrashed => halive hcrashed.1) hquiet

end Tunnara.Relay
