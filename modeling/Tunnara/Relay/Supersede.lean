/-
# The close of a superseded connection

When an agent connects anew its old connection is destroyed, and the `'close'` of that one arrives
later. Its listener leaves `agents` and the presence alone, but fails the entries of the agent
whichever connection they were routed over.
-/

import Tunnara.Relay.Moves

namespace Tunnara.Relay

open State Attempt Transition OrdMap

variable (env : Env)

/-- A newer connection of the agent is current and the close is still to come. -/
structure Superseded (state : State) (connection : ℕ) (agentId : String) : Prop where
  alive : ¬ state.Crashed
  closing : ∃ agent, state.agentConns.get? connection = some agent ∧
    agent.agentId = some agentId ∧ agent.gone = false
  replaced : ∃ current, state.agents.get? agentId = some current ∧ current ≠ connection

def RoutedOver (connection : ℕ) (agentId : String) (entries : OrdMap Key Entry) : Prop :=
  ∀ key entry, entries.get? key = some entry → entry.agentId = agentId → entry.via = connection

/-- The edge waits for something that was routed over the connection. -/
def WaitsFor (state : State) (connection edge : ℕ) : Prop :=
  ∃ key entry, (state.pending.get? key = some entry ∨ state.streams.get? key = some entry ∨
    state.udpSessions.get? key = some entry) ∧ entry.via = connection ∧ entry.edge = edge

/-- Only entries routed over the connection are gone, no other edge is told or
closed, and no presence changes. -/
structure SparesOthers (connection : ℕ) (before after : State) : Prop where
  pending : OrdMap.ChangesOnly (fun entry => entry.via = connection) before.pending after.pending
  streams : OrdMap.ChangesOnly (fun entry => entry.via = connection) before.streams after.streams
  sessions : OrdMap.ChangesOnly (fun entry => entry.via = connection)
    before.udpSessions after.udpSessions
  edges : ∀ edge, ¬ WaitsFor before connection edge →
    after.edgeConns.get? edge = before.edgeConns.get? edge
  presence : after.presence = before.presence

variable {state before : State} {edge connection : ℕ} {agentId : String} {key : Key} {entry : Entry}

theorem edgeConns_edgeEffect_of_ne {other : ℕ} (hne : other ≠ edge) (conn : EdgeConnection)
    (effect : Effect) :
    (state.edgeEffect edge conn effect).edgeConns.get? other = state.edgeConns.get? other := by
  unfold edgeEffect
  split <;> exact get?_set_of_ne _ hne _

section

variable (h : SparesOthers connection before state)
include h

theorem sparesOthers_edgeEffect (hwaits : WaitsFor before connection edge) {conn : EdgeConnection}
    {effect : Effect} : SparesOthers connection before (state.edgeEffect edge conn effect) := by
  have hedges : ∀ other, ¬ WaitsFor before connection other →
      (state.edgeEffect edge conn effect).edgeConns.get? other =
        before.edgeConns.get? other := by
    intro other hother
    have hne : other ≠ edge := by
      rintro rfl
      exact hother hwaits
    rw [edgeConns_edgeEffect_of_ne hne, h.edges other hother]
  obtain ⟨hpending, hstreams, hsessions, hpresence⟩ := entries_edgeEffect state edge conn effect
  exact ⟨hpending ▸ h.pending, hstreams ▸ h.streams, hsessions ▸ h.sessions, hedges,
    hpresence.trans h.presence⟩

theorem sparesOthers_closeEdge (hwaits : WaitsFor before connection edge) :
    SparesOthers connection before (state.closeEdge edge) := by
  refine ⟨h.pending, h.streams, h.sessions, ?_, h.presence⟩
  intro other hother
  have hne : other ≠ edge := by
    rintro rfl
    exact hother hwaits
  exact (get?_update_of_ne _ hne _).trans (h.edges other hother)

theorem sparesOthers_raise {fault : Fault} : SparesOthers connection before (state.raise fault) :=
  ⟨h.pending, h.streams, h.sessions, h.edges, h.presence⟩

end

theorem keeps_sparesOthers_failEntries (hpending : RoutedOver connection agentId before.pending)
    (hstreams : RoutedOver connection agentId before.streams)
    (hsessions : RoutedOver connection agentId before.udpSessions) :
    Keeps (SparesOthers connection before) (fun _ => True) (failEntries env agentId before) := by
  have hpendingTurn : ∀ item ∈ before.pending.entries,
      Keeps (SparesOthers connection before) (fun _ => True) (failPending env agentId item) := by
    intro item hitem
    have hget := get?_eq_some_iff.2 hitem
    have hwaits : item.2.agentId = agentId → WaitsFor before connection item.2.edge := fun hagent =>
      ⟨item.1, item.2, .inl hget, hpending _ _ hget hagent, rfl⟩
    apply keeps_turn
    · intro hagent state conn effect h
      exact sparesOthers_edgeEffect h (hwaits hagent)
    · intro hagent state h
      have hclosed := sparesOthers_closeEdge h (hwaits hagent)
      have hdropped := hclosed.pending.erase hget (hpending _ _ hget hagent)
      cases item.2.timer <;>
        exact ⟨hdropped, hclosed.streams, hclosed.sessions, hclosed.edges, hclosed.presence⟩
  have hstreamTurn : ∀ item ∈ before.streams.entries,
      Keeps (SparesOthers connection before) (fun _ => True) (failStream env agentId item) := by
    intro item hitem
    have hget := get?_eq_some_iff.2 hitem
    have hwaits : item.2.agentId = agentId → WaitsFor before connection item.2.edge := fun hagent =>
      ⟨item.1, item.2, .inr (.inl hget), hstreams _ _ hget hagent, rfl⟩
    apply keeps_turn
    · intro hagent state conn effect h
      exact sparesOthers_edgeEffect h (hwaits hagent)
    · intro hagent state h
      have hclosed := sparesOthers_closeEdge h (hwaits hagent)
      have hdropped := hclosed.streams.erase hget (hstreams _ _ hget hagent)
      exact ⟨hclosed.pending, hdropped, hclosed.sessions, hclosed.edges, hclosed.presence⟩
  have hsessionTurn : ∀ item ∈ before.udpSessions.entries,
      Keeps (SparesOthers connection before) (fun _ => True) (failSession env agentId item) := by
    intro item hitem
    have hget := get?_eq_some_iff.2 hitem
    apply keeps_turn
    · intro hagent state conn effect h
      have hwaits : WaitsFor before connection item.2.edge :=
        ⟨item.1, item.2, .inr (.inr hget), hsessions _ _ hget hagent, rfl⟩
      exact sparesOthers_edgeEffect h hwaits
    · intro hagent state h
      have hdropped := h.sessions.erase hget (hsessions _ _ hget hagent)
      exact ⟨h.pending, h.streams, hdropped, h.edges, h.presence⟩
  exact (Keeps.forM hpendingTurn).bind fun _ =>
    (Keeps.forM hstreamTurn).bind fun _ => Keeps.forM hsessionTurn

theorem settles_turn {goal : State → Prop} {item : Key × Entry} {payload : Json}
    {after : State → State} (hagent : item.2.agentId = agentId)
    (hafter : ∀ state, goal (after state)) :
    Settles goal (if item.2.agentId = agentId then do
      sendEdge env item.2.edge payload
      modify after
    else pure ()) := by
  rw [if_pos hagent]
  exact settles_bind fun _ => settles_modify hafter

theorem get?_erase_eq_none {entries : OrdMap Key Entry} (h : entries.get? key = none)
    (other : Key) : (entries.erase other).get? key = none := by
  rw [get?_erase, h, ite_self]

/-- A turn that leaves the map alone or drops an entry of it brings no key back. -/
theorem keeps_gone {entries : State → OrdMap Key Entry} {item : Key × Entry} {payload : Json}
    {after : State → State}
    (htold : ∀ state edge conn effect, entries (state.edgeEffect edge conn effect) = entries state)
    (hafter : ∀ state, entries (after state) = entries state ∨
      ∃ other, entries (after state) = (entries state).erase other) :
    Keeps (fun state => (entries state).get? key = none) (fun _ => True)
      (if item.2.agentId = agentId then do
        sendEdge env item.2.edge payload
        modify after
      else pure ()) := by
  apply keeps_turn
  · intro _ state conn effect h
    rwa [htold]
  · intro _ state h
    rcases hafter state with hsame | ⟨other, herased⟩
    · rwa [hsame]
    · rw [herased]
      exact get?_erase_eq_none h other

theorem settles_pending (hget : before.pending.get? key = some entry)
    (hagent : entry.agentId = agentId) :
    Settles (fun state => state.pending.get? key = none) (failEntries env agentId before) := by
  have htold state edge conn effect := (entries_edgeEffect state edge conn effect).1
  have hturn : Settles (fun state => state.pending.get? key = none)
      (failPending env agentId (key, entry)) := by
    apply settles_turn env hagent
    intro state
    cases entry.timer <;> exact get?_erase_self _ key
  have hkeep : ∀ item, Keeps (fun state => state.pending.get? key = none) (fun _ => True)
      (failPending env agentId item) := by
    intro item
    refine keeps_gone env htold fun state => .inr ⟨item.1, ?_⟩
    cases item.2.timer <;> rfl
  have hloop := settles_forM hturn (fun other _ => hkeep other) (get?_eq_some_iff.1 hget)
  refine hloop.bind_keeps fun _ => Keeps.bind (Keeps.forM fun item _ => ?_) fun _ =>
    Keeps.forM fun item _ => ?_
  · exact keeps_gone env htold fun _ => .inl rfl
  · exact keeps_gone env htold fun _ => .inl rfl

theorem settles_streams (hget : before.streams.get? key = some entry)
    (hagent : entry.agentId = agentId) :
    Settles (fun state => state.streams.get? key = none) (failEntries env agentId before) := by
  have htold state edge conn effect := (entries_edgeEffect state edge conn effect).2.1
  have hturn : Settles (fun state => state.streams.get? key = none)
      (failStream env agentId (key, entry)) :=
    settles_turn env hagent fun state => get?_erase_self _ key
  have hloop := settles_forM hturn (fun other _ => keeps_gone env htold fun _ =>
    .inr ⟨other.1, rfl⟩) (get?_eq_some_iff.1 hget)
  exact settles_bind fun _ => hloop.bind_keeps fun _ =>
    Keeps.forM fun _ _ => keeps_gone env htold fun _ => .inl rfl

theorem settles_sessions (hget : before.udpSessions.get? key = some entry)
    (hagent : entry.agentId = agentId) :
    Settles (fun state => state.udpSessions.get? key = none)
      (failEntries env agentId before) := by
  have htold state edge conn effect := (entries_edgeEffect state edge conn effect).2.2.1
  have hturn : Settles (fun state => state.udpSessions.get? key = none)
      (failSession env agentId (key, entry)) :=
    settles_turn env hagent fun state => get?_erase_self _ key
  have hloop := settles_forM hturn (fun other _ => keeps_gone env htold fun _ =>
    .inr ⟨other.1, rfl⟩) (get?_eq_some_iff.1 hget)
  exact settles_bind fun _ => settles_bind fun _ => hloop

theorem leave_of_ne (h : state.agents.get? agentId ≠ some connection) :
    state.leave env connection agentId = state := if_neg h

theorem step_agentClose (h : Superseded state connection agentId) :
    step env state (.agentClose connection) =
      callback (failEntries env agentId state) (state.tick.endAgent connection) := by
  obtain ⟨agent, hagent, hid, hgone⟩ := h.closing
  have hne : (state.tick.endAgent connection).agents.get? agentId ≠ some connection := by
    obtain ⟨current, hcurrent, hother⟩ := h.replaced
    intro hsame
    have hboth : some current = some connection := hcurrent.symm.trans hsame
    cases hboth
    exact hother rfl
  have hleave := leave_of_ne env hne
  have hconn : state.tick.agentConns.get? connection = some agent := hagent
  have hexec : exec (onAgentClose env connection (some agentId))
      (state.tick.endAgent connection) =
      exec (failEntries env agentId state) (state.tick.endAgent connection) := by
    rw [onAgentClose, exec_bind, exec_modify, hleave]
    rfl
  rw [step, if_neg h.alive, handle, withAgent, hconn]
  simp only [hgone, hid, Bool.not_false, if_true]
  rw [callback, callback, hexec]

/-- The entries of the agent that the close finds were routed over the connection. -/
structure RoutedAlone (state : State) (connection : ℕ) (agentId : String) : Prop where
  pending : RoutedOver connection agentId state.pending
  streams : RoutedOver connection agentId state.streams
  sessions : RoutedOver connection agentId state.udpSessions

theorem sparesOthers_close_iff (h : Superseded state connection agentId) :
    (¬ (step env state (.agentClose connection)).Crashed ∧
      SparesOthers connection state (step env state (.agentClose connection))) ↔
      Benign env state (.agentClose connection) ∧ RoutedAlone state connection agentId := by
  have halive : ¬ (step env state (.agentClose connection)).Crashed ↔
      Benign env state (.agentClose connection) := by
    have htick : ¬ state.tick.Crashed := h.alive
    rw [step, if_neg h.alive, crashed_handle_iff]
    simp [htick, Benign]
  rw [← halive]
  refine and_congr_right fun hup => ?_
  rw [step_agentClose env h] at hup ⊢
  constructor
  · intro hspares
    -- an entry that is gone was routed over the connection
    have hgone : ∀ {before after : OrdMap Key Entry} {key entry},
        OrdMap.ChangesOnly (fun entry => entry.via = connection) before after →
        before.get? key = some entry → after.get? key = none → entry.via = connection := by
      intro before after key entry hchanges hget hnone
      exact (hchanges key (by simp [hget, hnone])).1 entry hget
    constructor
    · intro key entry hget hagent
      exact hgone hspares.pending hget
        (settled_callback (settles_pending env hget hagent) hup)
    · intro key entry hget hagent
      exact hgone hspares.streams hget
        (settled_callback (settles_streams env hget hagent) hup)
    · intro key entry hget hagent
      exact hgone hspares.sessions hget
        (settled_callback (settles_sessions env hget hagent) hup)
  · intro hrouted
    have hkeeps := keeps_sparesOthers_failEntries env hrouted.pending hrouted.streams
      hrouted.sessions
    have hstart : SparesOthers connection state (state.tick.endAgent connection) :=
      ⟨.refl _ _, .refl _ _, .refl _ _, fun _ _ => rfl, rfl⟩
    exact keeps_callback (fun _ fault h => sparesOthers_raise h) hkeeps hstart trivial

/-- The close of a superseded connection leaves the Relay running and what the
newer connection carries alone. -/
def ClosesSparing (state : State) (event : Event) : Prop :=
  ∀ connection agentId, event = .agentClose connection → Superseded state connection agentId →
    ¬ (step env state event).Crashed ∧ SparesOthers connection state (step env state event)

/-- When a superseded connection closes, nothing of its agent was routed over another one
and every edge that waits can be told. -/
def ClosesAlone (state : State) (event : Event) : Prop :=
  ∀ connection agentId, event = .agentClose connection → Superseded state connection agentId →
    Benign env state event ∧ RoutedAlone state connection agentId

theorem closesSparing_iff {state : State} {event : Event} :
    ClosesSparing env state event ↔ ClosesAlone env state event := by
  refine forall₂_congr fun connection agentId => forall₂_congr fun hclose hsuperseded => ?_
  subst hclose
  exact sparesOthers_close_iff env hsuperseded

/-- In a run every superseded connection closes without harm exactly when each of
them closes alone. -/
theorem closesSparing_along_iff (events : List Event) :
    Along (step env) (ClosesSparing env) initial events ↔
      Along (step env) (ClosesAlone env) initial events :=
  ⟨Along.mono fun _ _ => (closesSparing_iff env).1,
    Along.mono fun _ _ => (closesSparing_iff env).2⟩

def oldHelloFrame : Json := .obj [("type", .str "agent_hello"), ("agentId", .str "a1")]

def newRequestFrame : Json := .obj [("type", .str "proxy_request"), ("requestId", .str "r1")]

def routeToReconnected : Route where
  tunnel := some ⟨text "active", text "http"⟩
  target := some ⟨text "t1", "a1", text "localhost", some (.num 80), none⟩

def supersedingRun : List Event :=
  [.agentConnect 0, .agentData 0 (Codec.wire oldHelloFrame), .authenticated 0 (.ok "a1"),
    .presenceSettled 0, .agentConnect 1, .agentData 1 (Codec.wire oldHelloFrame),
    .authenticated 1 (.ok "a1"), .presenceSettled 1, .edgeConnect 0,
    .edgeData 0 (Codec.wire newRequestFrame), .routeResolved 13 routeToReconnected]

/-- The close of the first connection drops the request that waits on the second. -/
theorem not_sparesOthers_superseding :
    let env : Env := .plain [oldHelloFrame, newRequestFrame]
    let state := run (step env) initial supersedingRun
    Superseded state 0 "a1" ∧ ¬ SparesOthers 0 state (step env state (.agentClose 0)) := by
  intro env state
  have hentry : state.pending.get? (Key.text "r1") = some ⟨0, "a1", some 14, 1⟩ := by
    decide +kernel
  have hdropped : (step env state (.agentClose 0)).pending.get? (Key.text "r1") = none := by
    decide +kernel
  constructor
  · refine ⟨by decide +kernel, ?_, 1, by decide +kernel, by decide⟩
    have hclosing : (state.agentConns.get? 0).map (fun agent => (agent.agentId, agent.gone)) =
        some (some "a1", false) := by
      decide +kernel
    obtain ⟨agent, hagent, hboth⟩ := Option.map_eq_some_iff.1 hclosing
    exact ⟨agent, hagent, congrArg Prod.fst hboth, congrArg Prod.snd hboth⟩
  · intro h
    have hvia := (h.pending (Key.text "r1") (by simp [hentry, hdropped])).1 _ hentry
    exact absurd hvia (by decide)

end Tunnara.Relay
