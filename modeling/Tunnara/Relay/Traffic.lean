/-
# What the handlers do to an invariant

Most of what a handler does is writing to edges. An invariant that speaks of the agents, of the
entries and of their gauges is kept by it for this reason alone, whatever the invariant says.
-/

import Tunnara.Relay.Step

namespace Tunnara.Relay

open State Attempt Transition

variable (env : Env)

/-- The target a request is handed to, if its agent is connected. -/
def addressee (lookup : Lookup) (route : Route) : Option Target :=
  match lookup.kind with
  | .proxyRequest => route.tunnel.bind fun tunnel =>
    if tunnel.status = text "active" then route.target else none
  | .streamOpen => route.tunnel.bind fun _ => route.target
  | .udpDatagram => route.tunnel.bind fun tunnel =>
    if tunnel.protocol = text "udp" then route.target else none
  | .healthProbe => route.target

/-- What an agent is handed a request as. -/
inductive Handed (lookup : Lookup) : Json → Prop
  | proxyRequest (requestId : Key) (target : Target) (tunnel : Tunnel) :
      Handed lookup (proxyRequestFrame lookup.frame requestId target tunnel)
  | streamOpen (hkind : lookup.kind = .streamOpen) (target : Target) (tunnel : Tunnel) :
      Handed lookup (streamOpenFrame lookup.frame target tunnel)
  | udpDatagram (sessionId : String) (target : Target) :
      Handed lookup (udpDatagramFrame lookup.frame sessionId target)
  | healthProbe (probeId : Key) (target : Target) (timeoutMs : JsNumber) :
      Handed lookup (healthProbeFrame lookup.frame probeId target timeoutMs)

/-- The invariant speaks of the agents, the entries and the gauges only, and an entry that comes
or goes with its gauge keeps it. -/
structure Booked (inv : State → Prop) : Prop where
  congr : ∀ {state next : State}, inv state → next.agentConns = state.agentConns →
    next.agents = state.agents → next.pending = state.pending → next.streams = state.streams →
    next.gauges = state.gauges → inv next
  dropPending : ∀ {state : State} (requestId : Key), inv state →
    inv (state.dropPending requestId).setPendingGauge
  dropStream : ∀ {state : State} (streamId : Key), inv state →
    inv (state.dropStream streamId).setStreamsGauge
  addPending : ∀ {state : State} (requestId : Key) (edge : ℕ) (agentId : String) (via : ℕ),
    inv state → inv (state.addPending requestId edge agentId via)
  addStream : ∀ {state : State} (streamId : Key) (edge : ℕ) (agentId : String) (via : ℕ),
    inv state → inv (state.addStream streamId edge agentId via)

variable (edge : ℕ) (payload : Json) (passes : State → Option Entry → Prop) {connection : ℕ}

namespace Booked

variable {inv guard : State → Prop} {agentId : String} (h : Booked inv)

include h

theorem keeps_sendEdge : Keeps inv guard (sendEdge env edge payload) := by
  apply Relay.keeps_sendEdge
  intro state conn effect hinv _ _ _
  unfold edgeEffect
  split <;> exact h.congr hinv rfl rfl rfl rfl rfl

theorem destroyEdge {state : State} (hinv : inv state) (edge : ℕ) :
    inv (state.destroyEdge edge) := by
  unfold State.destroyEdge edgeEffect
  split
  · exact hinv
  · split <;> exact h.congr hinv rfl rfl rfl rfl rfl

theorem clearTimeout {state : State} (hinv : inv state) (timer : Option ℕ) :
    inv (state.clearTimeout timer) := by
  cases timer with
  | none => exact hinv
  | some id => exact h.congr hinv rfl rfl rfl rfl rfl

theorem keeps_answer {after : State → State} (hafter : ∀ state, inv state → inv (after state)) :
    Keeps inv guard (do
      sendEdge env edge payload
      modify after : Handler) :=
  (h.keeps_sendEdge env edge payload).bind fun _ => keeps_modify fun state hinv _ =>
    hafter state hinv

theorem keeps_timedAnswer (timer : Option ℕ) {after : State → State}
    (hafter : ∀ state, inv state → inv (after state)) :
    Keeps inv guard (do
      modify fun state => state.clearTimeout timer
      sendEdge env edge payload
      modify after : Handler) := by
  apply Keeps.bind
  · exact keeps_modify fun state hinv _ => h.clearTimeout hinv timer
  · exact fun _ => h.keeps_answer env edge payload hafter

omit h in
theorem keeps_reply {entry : Entry} {answer : Handler} (hanswer : Keeps inv guard answer) :
    Keeps inv guard (if entry.agentId ≠ agentId then pure () else answer) := by
  split
  · exact keeps_pure
  · exact hanswer

theorem keeps_turnAway {answer : Json} : Keeps inv guard (turnAway env edge answer) :=
  h.keeps_answer env edge answer fun _ hinv => h.congr hinv rfl rfl rfl rfl rfl

theorem keeps_onAgentFrame {acks : State → Prop} (frame : Json)
    (hack : ∀ text, Keeps inv acks (sendToAgent env agentId (heartbeatAckFrame text))) :
    Keeps inv (fun state => hasType frame "heartbeat" → env.distributed = false → acks state)
      (onAgentFrame env agentId frame) := by
  by_cases hnull : frame = .null
  · subst hnull
    exact keeps_throw
  rw [onAgentFrame_of_ne_null env hnull, dispatchAgentFrame]
  split_ifs with hheartbeat
  · apply Keeps.get_bind
    intro read
    split_ifs with hdistributed
    · exact keeps_modify fun state hinv _ => h.congr hinv rfl rfl rfl rfl rfl
    · cases env.store read.clock with
      | some error => exact keeps_throw
      | none =>
        apply (hack _).mono
        exact fun state hguard => hguard.1 hheartbeat (by simpa using hdistributed)
  · apply Keeps.get_bind
    intro read
    dsimp only
    cases read.healthProbes.get? (Key.of read.clock (frame.get? "probeId")) with
    | none => exact keeps_pure
    | some entry =>
      apply keeps_reply
      exact h.keeps_timedAnswer env _ _ _ fun _ hinv => h.congr hinv rfl rfl rfl rfl rfl
  · apply Keeps.get_bind
    intro read
    dsimp only
    cases read.pending.get? (Key.of read.clock (frame.get? "requestId")) with
    | none => exact keeps_pure
    | some entry =>
      apply keeps_reply
      apply h.keeps_timedAnswer
      intro state hinv
      exact h.dropPending _ (h.congr hinv rfl rfl rfl rfl rfl)
  · apply Keeps.get_bind
    intro read
    dsimp only
    cases read.streams.get? (Key.of read.clock (frame.get? "streamId")) with
    | none => exact keeps_pure
    | some entry =>
      apply keeps_reply
      apply h.keeps_answer
      intro state hinv
      split
      · exact h.dropStream _ (h.congr hinv rfl rfl rfl rfl rfl)
      · exact hinv
  · apply Keeps.get_bind
    intro read
    dsimp only
    cases read.udpSessions.get? (Key.of read.clock (frame.get? "sessionId")) with
    | none => exact keeps_pure
    | some entry =>
      apply keeps_reply
      apply h.keeps_answer
      intro state hinv
      split
      · exact h.congr hinv rfl rfl rfl rfl rfl
      · exact hinv
  · exact keeps_pure

theorem keeps_onEdgeFrame {frame : Json}
    (hclose : ∀ entry, Keeps inv (passes · entry) (forward env entry frame))
    (hstream : ∀ streamId, Keeps inv (fun state => passes state (state.streams.get? streamId))
      (onEdgeStream env streamId frame)) :
    Keeps inv (fun state =>
      (hasType frame "udp_close" → passes state (named state state.udpSessions frame "sessionId")) ∧
      (hasType frame "stream_data" ∨ hasType frame "stream_close" →
        truthy (state.streamIdOf edge).value →
        passes state (state.streams.get? (state.streamIdOf edge))))
      (onEdgeFrame env edge frame) := by
  by_cases hnull : frame = .null
  · subst hnull
    exact keeps_throw
  rw [onEdgeFrame_of_ne_null env hnull, dispatchEdgeFrame]
  apply Keeps.get_bind
  intro read
  split_ifs with _ _ _ _ hudp hopen
  · exact keeps_modify fun state hinv _ => h.congr hinv rfl rfl rfl rfl rfl
  · exact keeps_modify fun state hinv _ => h.congr hinv rfl rfl rfl rfl rfl
  · exact keeps_modify fun state hinv _ => h.congr hinv rfl rfl rfl rfl rfl
  · exact keeps_modify fun state hinv _ => h.congr hinv rfl rfl rfl rfl rfl
  · apply Keeps.get_bind
    intro later
    apply Keeps.bind
    · apply (hclose _).mono
      rintro state ⟨⟨hpasses, rfl⟩, rfl⟩
      exact hpasses.1 hudp
    · exact fun _ => keeps_modify fun state hinv _ => h.congr hinv rfl rfl rfl rfl rfl
  · apply (hstream _).mono
    rintro state ⟨hpasses, rfl⟩
    simp only [Bool.and_eq_true, Bool.or_eq_true] at hopen
    exact hpasses.2 hopen.1 hopen.2
  · exact keeps_pure

theorem keeps_onTimer (timer : Timer) : Keeps inv (fun _ => True) (onTimer env timer) := by
  apply Keeps.get_bind
  intro read
  split
  · split
    · exact keeps_pure
    · apply h.keeps_answer
      exact fun _ hinv => h.dropPending _ (h.congr hinv rfl rfl rfl rfl rfl)
  · split
    · exact keeps_pure
    · apply h.keeps_answer
      exact fun _ hinv => h.congr hinv rfl rfl rfl rfl rfl

omit h in
theorem entries_leave {state : State} {connection : ℕ} {agentId : String} :
    (state.leave env connection agentId).pending = state.pending ∧
      (state.leave env connection agentId).streams = state.streams := by
  unfold leave goOffline
  split
  · dsimp only
    split <;> exact ⟨rfl, rfl⟩
  · exact ⟨rfl, rfl⟩

theorem keeps_onAgentClose {agent : Option String} (spares : Entry → Prop)
    (hleave : ∀ state id, inv state → inv (state.leave env connection id))
    (hpending : ∀ id item, agent = some id → spares item.2 →
      Keeps inv (fun _ => True) (failPending env id item))
    (hstream : ∀ id item, agent = some id → spares item.2 →
      Keeps inv (fun _ => True) (failStream env id item)) :
    Keeps inv (fun state => ∀ item, item ∈ state.pending.entries ∨ item ∈ state.streams.entries →
      spares item.2) (onAgentClose env connection agent) := by
  cases agent with
  | none => exact keeps_pure
  | some id =>
    intro state hinv hspares
    obtain ⟨hpendingSame, hstreamsSame⟩ := entries_leave env
    have hloops : Keeps inv (fun _ => True) (do
        (state.leave env connection id).pending.entries.forM (failPending env id)
        (state.leave env connection id).streams.entries.forM (failStream env id)
        (state.leave env connection id).udpSessions.entries.forM
          (failSession env id) : Handler) := by
      rw [hpendingSame, hstreamsSame]
      apply Keeps.bind
      · exact Keeps.forM fun item hitem => hpending id item rfl (hspares item (.inl hitem))
      intro _
      apply Keeps.bind
      · exact Keeps.forM fun item hitem => hstream id item rfl (hspares item (.inr hitem))
      intro _
      apply Keeps.forM
      intro item _
      unfold failSession
      split
      · apply h.keeps_answer
        exact fun _ hinv => h.congr hinv rfl rfl rfl rfl rfl
      · exact keeps_pure
    exact hloops _ (hleave state id hinv) trivial

variable {hands : State → String → Prop}

omit h in
theorem keeps_handOver (agentId : String) {payload : Json} {add : State → State}
    (hhands : ∀ {state next : State} {agentId}, hands state agentId →
      next.agentConns = state.agentConns → next.agents = state.agents → hands next agentId)
    (hsend : Keeps inv (fun state => state.agents.get? agentId = some connection ∧
      hands state agentId) (sendAgent env connection payload))
    (hadd : ∀ state, inv state → inv (add state))
    (hsame : ∀ state, (add state).agentConns = state.agentConns ∧
      (add state).agents = state.agents) :
    Keeps inv (fun state => state.agents.get? agentId = some connection ∧ hands state agentId)
      (do
        modify add
        sendAgent env connection payload : Handler) := by
  apply hsend.modify_bind
  rintro state hinv ⟨hcurrent, hguard⟩
  obtain ⟨hconns, hagents⟩ := hsame state
  exact ⟨hadd state hinv, hagents ▸ hcurrent, hhands hguard hconns hagents⟩

theorem keeps_onRoute {lookup : Lookup} {route : Route}
    (hhands : ∀ {state next : State} {agentId}, hands state agentId →
      next.agentConns = state.agentConns → next.agents = state.agents → hands next agentId)
    (hsend : ∀ {agentId connection payload}, Handed lookup payload →
      Keeps inv (fun state => state.agents.get? agentId = some connection ∧ hands state agentId)
        (sendAgent env connection payload)) :
    Keeps inv (fun state => ∀ target, addressee lookup route = some target →
      hands state target.agentId) (onRoute env lookup route) := by
  unfold onRoute addressee
  cases hkind : lookup.kind with
  | proxyRequest =>
    apply Keeps.get_bind
    intro read
    cases route.tunnel with
    | none => exact h.keeps_turnAway env _
    | some tunnel =>
      cases route.target with
      | none => exact h.keeps_turnAway env _
      | some target =>
        dsimp only
        split_ifs with hstatus
        · exact h.keeps_turnAway env _
        cases hagent : read.agents.get? target.agentId with
        | none => exact h.keeps_turnAway env _
        | some connection =>
          refine Keeps.mono (keeps_handOver env target.agentId hhands
            (hsend (.proxyRequest _ target tunnel)) ?_ fun _ => ⟨rfl, rfl⟩) ?_
          · exact fun _ hinv => h.addPending _ _ _ _ hinv
          · rintro state ⟨hguard, rfl⟩
            exact ⟨hagent, hguard target (by simp [not_not.1 hstatus])⟩
  | streamOpen =>
    apply Keeps.get_bind
    intro read
    cases hfound : connectedTarget read route with
    | none => exact h.keeps_turnAway env _
    | some found =>
      obtain ⟨tunnel, target, connection⟩ := found
      obtain ⟨htunnel, htarget, hagent⟩ := connectedTarget_eq_some hfound
      refine Keeps.mono (keeps_handOver env target.agentId hhands
        (hsend (.streamOpen hkind target tunnel)) ?_ fun _ => ⟨rfl, rfl⟩) ?_
      · exact fun _ hinv => h.addStream _ _ _ _ hinv
      · rintro state ⟨hguard, rfl⟩
        exact ⟨hagent, hguard target (by simp [htunnel, htarget])⟩
  | udpDatagram =>
    apply Keeps.get_bind
    intro read
    cases hfound : (connectedTarget read route).filter fun found =>
        found.1.protocol = text "udp" with
    | none => exact h.keeps_sendEdge env _ _
    | some found =>
      obtain ⟨tunnel, target, connection⟩ := found
      obtain ⟨hconnected, hudp⟩ := Option.filter_eq_some_iff.1 hfound
      obtain ⟨htunnel, htarget, hagent⟩ := connectedTarget_eq_some hconnected
      have hprotocol : tunnel.protocol = text "udp" := of_decide_eq_true hudp
      cases sessionText env lookup read with
      | error error => exact keeps_throw
      | ok sessionId =>
        refine Keeps.mono (keeps_handOver env target.agentId hhands
          (hsend (.udpDatagram sessionId target)) ?_ fun _ => ⟨rfl, rfl⟩) ?_
        · exact fun _ hinv => h.congr hinv rfl rfl rfl rfl rfl
        · rintro state ⟨hguard, rfl⟩
          exact ⟨hagent, hguard target (by simp [htunnel, htarget, hprotocol])⟩
  | healthProbe =>
    apply Keeps.get_bind
    intro read
    cases hfound : route.target.bind fun target =>
        (read.agents.get? target.agentId).map fun connection => (target, connection) with
    | none => exact h.keeps_turnAway env _
    | some found =>
      obtain ⟨target, htarget, hfound⟩ := Option.bind_eq_some_iff.1 hfound
      obtain ⟨connection, hagent, rfl⟩ := Option.map_eq_some_iff.1 hfound
      cases probeTimeout env lookup with
      | error error => exact keeps_throw
      | ok timeout =>
        refine Keeps.mono (keeps_handOver env target.agentId hhands
          (hsend (.healthProbe _ target _)) ?_ fun _ => ⟨rfl, rfl⟩) ?_
        · exact fun _ hinv => h.congr hinv rfl rfl rfl rfl rfl
        · rintro state ⟨hguard, rfl⟩
          exact ⟨hagent, hguard target htarget⟩

end Booked

/-- The invariant speaks of the agent connections and of `agents` only. -/
def ReadsAgents (inv : State → Prop) : Prop :=
  ∀ {state next : State}, inv state → next.agentConns = state.agentConns →
    next.agents = state.agents → inv next

namespace ReadsAgents

variable {inv guard : State → Prop} (h : ReadsAgents inv)

include h

theorem booked : Booked inv where
  congr hinv hconns hagents _ _ _ := h hinv hconns hagents
  dropPending _ hinv := h hinv rfl rfl
  dropStream _ hinv := h hinv rfl rfl
  addPending _ _ _ _ hinv := h hinv rfl rfl
  addStream _ _ _ _ hinv := h hinv rfl rfl

theorem keeps_onEdgeFrame {edge : ℕ} {frame : Json}
    (hforward : ∀ entry, Keeps inv (passes · entry) (forward env entry frame)) :
    Keeps inv (fun state =>
      (hasType frame "udp_close" → passes state (named state state.udpSessions frame "sessionId")) ∧
      (hasType frame "stream_data" ∨ hasType frame "stream_close" →
        truthy (state.streamIdOf edge).value →
        passes state (state.streams.get? (state.streamIdOf edge))))
      (onEdgeFrame env edge frame) := by
  apply h.booked.keeps_onEdgeFrame env edge passes hforward
  intro streamId
  apply Keeps.get_bind
  intro read
  apply Keeps.bind
  · apply (hforward _).mono
    rintro state ⟨hpasses, rfl⟩
    exact hpasses
  · intro _
    apply keeps_modify
    intro state hinv _
    split
    · exact h hinv rfl rfl
    · exact hinv

theorem keeps_onEdgeClose {streamId : Key} (hforward : ∀ entry, Keeps inv (passes · entry)
      (forward env entry (streamCloseFrame streamId.value "edge_closed"))) :
    Keeps inv (fun state => truthy streamId.value → passes state (state.streams.get? streamId))
      (onEdgeClose env streamId) := by
  unfold onEdgeClose
  split_ifs with hid
  · apply Keeps.get_bind
    intro read
    apply Keeps.bind
    · apply (hforward _).mono
      rintro state ⟨hpasses, rfl⟩
      exact hpasses hid
    · exact fun _ => keeps_modify fun state hinv _ => h hinv rfl rfl
  · exact keeps_pure

theorem keeps_onAgentClose {agent : Option String}
    (hleave : ∀ state id, inv state → inv (state.leave env connection id)) :
    Keeps inv guard (onAgentClose env connection agent) := by
  apply (h.booked.keeps_onAgentClose env (fun _ => True) hleave ?_ ?_).mono
  · exact fun _ _ _ _ => trivial
  · intro id item _ _
    unfold failPending
    split
    · apply h.booked.keeps_answer
      intro state hinv
      have hclosed : inv (state.closeEdge item.2.edge) := h hinv rfl rfl
      exact h (h.booked.clearTimeout hclosed item.2.timer) rfl rfl
    · exact keeps_pure
  · intro id item _ _
    unfold failStream
    split
    · exact h.booked.keeps_answer env _ _ fun _ hinv => h hinv rfl rfl
    · exact keeps_pure

end ReadsAgents

end Tunnara.Relay
