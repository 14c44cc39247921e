/-
# What the gauges of the Relay show

The gauges are set where an entry comes and where the answer of an agent or a timer takes it away.
When an agent disconnects, and when an edge closes its stream or its connection, the entry goes
and the gauge stays. In the runs in which this never happens the gauges show the sizes of the maps
after every event.
-/

import Tunnara.Relay.Inactive
import Tunnara.Relay.Traffic

namespace Tunnara.Relay

open State Attempt Transition

variable (env : Env)

/-- The gauges show how many agents, pending requests and streams there are. -/
def Truthful (state : State) : Prop :=
  state.gauges = ⟨state.agents.size, state.pending.size, state.streams.size⟩

instance (state : State) : Decidable (Truthful state) := inferInstanceAs (Decidable (_ = _))

/-- Nothing waits for the agent, and it has no stream. -/
def OwnsNothing (state : State) (agentId : String) : Prop :=
  (∀ item ∈ state.pending.entries, item.2.agentId ≠ agentId) ∧
    ∀ item ∈ state.streams.entries, item.2.agentId ≠ agentId

instance (state : State) (agentId : String) : Decidable (OwnsNothing state agentId) :=
  inferInstanceAs (Decidable (_ ∧ _))

/-- The frame closes no stream. -/
def LosesNoStream (edge : ℕ) (state : State) : Signal → Prop
  | .frame value => hasType value "stream_close" → truthy (state.streamIdOf edge).value →
      state.streams.get? (state.streamIdOf edge) = none
  | _ => True

instance (edge : ℕ) (state : State) : ∀ signal, Decidable (LosesNoStream edge state signal)
  | .frame _ => inferInstanceAs (Decidable (_ = true → _ = true → _ = none))
  | .malformed => isTrue trivial
  | .invalidLength => isTrue trivial

/-- An agent that disconnects is idle, and an edge neither closes its stream nor its connection
while the stream is there. -/
def LosesNothing (state : State) : Event → Prop
  | .agentClose connection => ∀ agent, state.agentConns.get? connection = some agent →
      agent.gone = false → ∀ agentId, agent.agentId = some agentId → OwnsNothing state agentId
  | .edgeData edge chunk => ∀ conn, state.edgeConns.get? edge = some conn →
      conn.framed.destroyed = false → Along (edgeSignal env edge) (LosesNoStream edge)
        (state.tick.keepEdgeBytes edge (drain env.codec (conn.framed.buffer ++ chunk)).2)
        (drain env.codec (conn.framed.buffer ++ chunk)).1
  | .edgeClose edge => ∀ conn, state.edgeConns.get? edge = some conn → conn.gone = false →
      truthy conn.streamId.value → state.streams.get? conn.streamId = none
  | _ => True

instance (state : State) : ∀ event, Decidable (LosesNothing env state event)
  | .agentClose _ => inferInstanceAs (Decidable (∀ _, _ = some _ → _ = _ → ∀ _, _ = some _ →
      OwnsNothing _ _))
  | .edgeData _ _ => inferInstanceAs (Decidable (∀ _, _ = some _ → _ = _ → Along _ _ _ _))
  | .edgeClose _ => inferInstanceAs (Decidable (∀ _, _ = some _ → _ = _ → _ = true → _ = none))
  | .agentConnect _ | .edgeConnect _ | .agentData _ _ | .agentEnd _ | .edgeEnd _ | .agentError _
  | .edgeError _ | .authTimeout _ | .authenticated _ _ | .presenceSettled _
  | .routeResolved _ _ | .heartbeatSettled _ | .timerFired _ => isTrue trivial

theorem booked_truthful : Booked Truthful where
  congr h _ hagents hpending hstreams hgauges := by
    unfold Truthful
    rw [hagents, hpending, hstreams, hgauges]
    exact h
  dropPending _ h := by
    unfold Truthful at h
    simp only [Truthful, setPendingGauge, State.dropPending, h]
  dropStream _ h := by
    unfold Truthful at h
    simp only [Truthful, setStreamsGauge, State.dropStream, h]
  addPending _ _ _ _ h := by
    unfold Truthful at h
    simp only [Truthful, State.addPending, setPendingGauge, h]
  addStream _ _ _ _ h := by
    unfold Truthful at h
    simp only [Truthful, State.addStream, setStreamsGauge, h]

variable {guard : State → Prop} {state : State}

variable (connection : ℕ)

theorem keeps_truthful_sendAgent {payload : Json} :
    Keeps Truthful guard (sendAgent env connection payload) :=
  keeps_sendAgent env fun _ _ _ h _ _ _ => h

variable {agentId : String}

theorem keeps_truthful_sendToAgent {payload : Json} :
    Keeps Truthful guard (sendToAgent env agentId payload) :=
  keeps_sendToAgent env fun connection => keeps_truthful_sendAgent env connection

theorem keeps_truthful_forward {entry : Option Entry} {payload : Json} :
    Keeps Truthful guard (forward env entry payload) := by
  cases entry with
  | none => exact keeps_pure
  | some entry => exact keeps_truthful_sendToAgent env

theorem keeps_truthful_refuse {error : JsError} :
    Keeps Truthful guard (refuse env connection error) := by
  apply Keeps.bind
  · exact keeps_modify fun _ h _ => h
  intro _
  apply (keeps_truthful_sendAgent env connection).bind
  exact fun _ => keeps_modify fun _ h _ => h

theorem keeps_truthful_onHello {hello : Json} :
    Keeps Truthful guard (onHello env connection hello) := by
  unfold onHello
  cases helloError hello with
  | some error => exact keeps_truthful_refuse env connection
  | none => exact keeps_modify fun _ h _ => h

theorem truthful_register (h : Truthful state) {connection : ℕ} :
    Truthful (state.register connection agentId) := by
  unfold Truthful at h
  unfold register Truthful askPresence setAgentsGauge
  dsimp only
  split <;> simp only [modifyAgent, destroyAgent, h]

theorem keeps_truthful_onPresence : Keeps Truthful guard (onPresence env connection agentId) := by
  apply Keeps.get_bind
  intro read
  cases env.presenceError read.clock with
  | some error => exact keeps_truthful_refuse env connection
  | none =>
    apply Keeps.tryCatch
    · apply (keeps_truthful_sendAgent env connection).bind
      exact fun _ => keeps_modify fun _ h _ => h
    · exact fun error => keeps_truthful_refuse env connection

theorem truthful_leave (h : Truthful state) {connection : ℕ} :
    Truthful (state.leave env connection agentId) := by
  unfold leave
  split
  · have hgauge : Truthful
        ({ state with agents := state.agents.erase agentId }.setAgentsGauge) := by
      unfold Truthful at h
      simp only [Truthful, setAgentsGauge, h]
    unfold goOffline
    dsimp only
    split <;> exact hgauge
  · exact h

theorem keeps_truthful_onAgentClose {agent : Option String} :
    Keeps Truthful (fun state => ∀ agentId, agent = some agentId → OwnsNothing state agentId)
      (onAgentClose env connection agent) := by
  apply (booked_truthful.keeps_onAgentClose env (fun entry => ∀ agentId, agent = some agentId →
    entry.agentId ≠ agentId) (fun _ id h => truthful_leave env h) ?_ ?_).mono
  · rintro state hidle item (hpending | hstream) agentId hagent
    · exact (hidle agentId hagent).1 item hpending
    · exact (hidle agentId hagent).2 item hstream
  · intro id item hagent hother
    unfold failPending
    rw [if_neg (hother id hagent)]
    exact keeps_pure
  · intro id item hagent hother
    unfold failStream
    rw [if_neg (hother id hagent)]
    exact keeps_pure

theorem keeps_truthful_onEdgeStream {streamId : Key} {frame : Json} :
    Keeps Truthful
      (fun state => hasType frame "stream_close" → state.streams.get? streamId = none)
      (onEdgeStream env streamId frame) := by
  apply Keeps.get_bind
  intro read state h
  rintro ⟨hclosed, rfl⟩
  by_cases hclose : hasType frame "stream_close" = true
  · have hsame : read.dropStream streamId = read := by
      unfold dropStream
      rw [OrdMap.erase_of_get?_none (hclosed hclose)]
    have hexec : exec (do
        forward env (read.streams.get? streamId) frame
        modify fun state =>
          if hasType frame "stream_close" then state.dropStream streamId else state : Handler)
        read = (.ok ⟨⟩, read) := by
      rw [hclosed hclose, exec_bind, forward, exec_pure]
      dsimp only
      rw [exec_modify, if_pos hclose, hsame]
    rw [hexec]
    exact h
  · have hforward : Keeps Truthful (fun _ => True) (do
        forward env (read.streams.get? streamId) frame
        modify fun state =>
          if hasType frame "stream_close" then state.dropStream streamId else state : Handler) := by
      apply (keeps_truthful_forward env).bind
      intro _
      apply keeps_modify
      intro state h _
      rw [if_neg hclose]
      exact h
    exact hforward read h trivial

theorem truthful_edgeSignal {edge : ℕ} {signal : Signal} (h : Truthful state)
    (htidy : LosesNoStream edge state signal) : Truthful (edgeSignal env edge state signal) := by
  have htick : Truthful state.tick := h
  cases signal with
  | malformed | invalidLength => exact booked_truthful.destroyEdge htick edge
  | frame value =>
    have hkeeps := booked_truthful.keeps_onEdgeFrame env edge
      (fun _ entry => hasType value "stream_close" → entry = none)
      (fun entry => keeps_truthful_forward env)
      (fun streamId => keeps_truthful_onEdgeStream env)
    have hafter : Truthful (exec (onEdgeFrame env edge value) state.tick).2 := by
      refine hkeeps state.tick htick ⟨fun hudp hclose => ?_, fun _ hopen hclose => ?_⟩
      · rw [hasType_other hudp _ (by decide)] at hclose
        cases hclose
      · exact htidy hclose hopen
    unfold edgeSignal frameListener
    dsimp only
    split
    · rename_i hexec
      rwa [hexec] at hafter
    · rename_i hexec
      rw [hexec] at hafter
      exact booked_truthful.destroyEdge hafter edge

theorem keeps_truthful_onEdgeClose {streamId : Key} :
    Keeps Truthful
      (fun state => truthy streamId.value → state.streams.get? streamId = none)
      (onEdgeClose env streamId) := by
  unfold onEdgeClose
  split_ifs with hid
  · apply Keeps.get_bind
    rintro read state h ⟨hclosed, rfl⟩
    rw [hclosed hid]
    change Truthful (read.dropStream streamId)
    unfold dropStream
    rw [OrdMap.erase_of_get?_none (hclosed hid)]
    exact h
  · exact keeps_pure

theorem truthful_agentSignal (h : Truthful state) {connection : ℕ} {signal : Signal} :
    Truthful (agentSignal env connection state signal) := by
  have htick : Truthful state.tick := h
  have hraise : ∀ state fault, Truthful state → Truthful (State.raise state fault) :=
    fun _ _ h => h
  cases signal with
  | malformed | invalidLength => exact htick
  | frame value =>
    unfold agentSignal
    dsimp only
    split
    · exact htick
    · split
      · have hhello : Keeps Truthful (fun _ => True) (onHello env connection value) :=
          keeps_truthful_onHello env connection
        exact keeps_voidAsync hraise hhello htick trivial
      · rename_i agentId _ _
        have hframe := booked_truthful.keeps_onAgentFrame env value
          fun text => @keeps_truthful_sendToAgent env (fun _ => True) agentId
            (heartbeatAckFrame text)
        exact keeps_voidAsync hraise hframe htick fun _ _ => trivial
      · exact htick

theorem truthful_withAgent {connection : ℕ} {enabled : AgentConnection → Bool}
    {f : AgentConnection → State} (h : Truthful state)
    (hf : ∀ agent, state.agentConns.get? connection = some agent → enabled agent = true →
      Truthful (f agent)) : Truthful (withAgent state connection enabled f) := by
  unfold withAgent
  split
  · exact h
  · split
    · exact hf _ ‹_› ‹_›
    · exact h

theorem truthful_withEdge {edge : ℕ} {enabled : EdgeConnection → Bool} {f : EdgeConnection → State}
    (h : Truthful state)
    (hf : ∀ conn, state.edgeConns.get? edge = some conn → enabled conn = true →
      Truthful (f conn)) : Truthful (withEdge state edge enabled f) := by
  unfold withEdge
  split
  · exact h
  · split
    · exact hf _ ‹_› ‹_›
    · exact h

theorem truthful_handle {event : Event} (h : Truthful state)
    (hkeeps : LosesNothing env state event) : Truthful (handle env state.tick event) := by
  have htick : Truthful state.tick := h
  have hraise : ∀ state fault, Truthful state → Truthful (State.raise state fault) :=
    fun _ _ h => h
  cases event with
  | agentConnect connection | edgeConnect edge =>
    simp only [handle]
    split <;> exact htick
  | agentData connection chunk =>
    apply truthful_withAgent htick
    intro agent _ _
    have hall := along_always (agentSignal env connection) (state.tick.keepAgentBytes connection
      (drain env.codec (agent.framed.buffer ++ chunk)).2)
      (drain env.codec (agent.framed.buffer ++ chunk)).1
    have hsignal : ∀ state signal, Truthful state → Always state signal →
        Truthful (agentSignal env connection state signal) :=
      fun _ signal h _ => truthful_agentSignal env h
    exact hall.invariant hsignal htick
  | edgeData edge chunk =>
    apply truthful_withEdge htick
    intro conn hconn hopen
    exact (hkeeps conn hconn (by simpa using hopen)).invariant
      (fun _ _ => truthful_edgeSignal env) htick
  | agentEnd connection => exact truthful_withAgent htick fun _ _ _ => htick
  | edgeEnd edge => exact truthful_withEdge htick fun _ _ _ => htick
  | agentError connection => exact truthful_withAgent htick fun _ _ _ => htick
  | edgeError edge => exact truthful_withEdge htick fun _ _ _ => htick
  | agentClose connection =>
    apply truthful_withAgent htick
    intro agent hagent hgone
    exact keeps_callback hraise (keeps_truthful_onAgentClose env connection) htick
      (hkeeps agent hagent (by simpa using hgone))
  | edgeClose edge =>
    apply truthful_withEdge htick
    intro conn hconn hgone
    exact keeps_callback hraise (keeps_truthful_onEdgeClose env) htick
      (hkeeps conn hconn (by simpa using hgone))
  | authTimeout connection => exact truthful_withAgent htick fun _ _ _ => htick
  | authenticated connection result =>
    apply truthful_withAgent htick
    intro _ _ _
    cases result with
    | error error =>
      have hrefuse : Keeps Truthful (fun _ => True) (refuse env connection error) :=
        keeps_truthful_refuse env connection
      exact keeps_voidAsync hraise hrefuse htick trivial
    | ok agentId => exact truthful_register htick
  | presenceSettled connection =>
    apply truthful_withAgent htick
    intro agent _ _
    split
    · exact htick
    · rename_i agentId _
      have hpresence : Keeps Truthful (fun _ => True) (onPresence env connection agentId) :=
        keeps_truthful_onPresence env connection
      exact keeps_voidAsync hraise hpresence htick trivial
  | routeResolved id route =>
    simp only [handle]
    split
    · exact htick
    · rename_i lookup _
      have hroute : Keeps Truthful (fun _ => ∀ target, addressee lookup route = some target →
          True) (onRoute env lookup route) :=
        booked_truthful.keeps_onRoute env (fun _ _ _ => trivial)
          fun _ => keeps_truthful_sendAgent env _
      exact keeps_voidAsync hraise hroute htick fun _ _ => trivial
  | heartbeatSettled id =>
    simp only [handle]
    split
    · exact htick
    · rename_i agentId _
      have hack : Keeps Truthful (fun _ => True) (onHeartbeatSettled env agentId) :=
        Keeps.get_bind fun _ => keeps_truthful_sendToAgent env
      exact keeps_voidAsync hraise hack htick trivial
  | timerFired id =>
    simp only [handle]
    split
    · exact htick
    · exact keeps_callback hraise (booked_truthful.keeps_onTimer env _)
        (booked_truthful.clearTimeout htick _) trivial

theorem truthful_step {event : Event} (h : Truthful state)
    (hkeeps : LosesNothing env state event) : Truthful (step env state event) := by
  unfold step
  split
  · exact h
  · exact truthful_handle env h hkeeps

/-- While no event takes an entry away from its gauge, the gauges are right after every event. -/
theorem truthful_throughout (events : List Event)
    (hkeeps : Along (step env) (LosesNothing env) initial events) :
    Throughout (step env) Truthful initial events :=
  hkeeps.throughout (fun _ _ h hevent => truthful_step env h hevent) rfl

def openedRun : List Event :=
  edgeRun ++ [.edgeData 0 (Codec.wire (streamOpening "s1" "d1")),
    .routeResolved 8 (activeRoute "a1")]

theorem truthful_throughout_opened :
    Throughout (step pausedEnv) Truthful initial openedRun :=
  truthful_throughout pausedEnv openedRun (by decide +kernel)

/-- The edge of the stream closes: the gauge still counts it. -/
theorem not_truthful_closed :
    ¬ ∀ env events, Throughout (step env) Truthful initial events := by
  intro h
  have hlast : ¬ Truthful (run (step pausedEnv) initial (openedRun ++ [.edgeClose 0])) := by
    decide +kernel
  have hall := h pausedEnv (openedRun ++ [.edgeClose 0])
  exact hlast hall.last

end Tunnara.Relay
