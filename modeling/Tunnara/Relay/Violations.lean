/-
# After a violation of the protocol

`#onData` goes on with the next frame of its buffer while the handler of the last one may have
destroyed the connection: the payload was not JSON, or the listener threw. Only a bad length ends
the loop. What follows a violation in the same chunk is still emitted, what follows it in a later
chunk is not.
-/

import Mathlib.Data.List.TakeWhile
import Tunnara.Relay.Chunking
import Tunnara.Relay.Isolation
import Tunnara.Relay.Written

namespace Tunnara.Relay

open State Attempt Transition OrdMap

def Signal.isViolation : Signal → Bool
  | .frame _ => false
  | .malformed | .invalidLength => true

/-- `FramedConnection.destroy` was called. -/
def FramedConnection.doomed (connection : FramedConnection) : Bool :=
  connection.closed && connection.destroyed

/-! ## The connections of the Relay -/

/-- A connection from an agent or from an edge. -/
inductive Peer
  | agent (connection : ℕ)
  | edge (id : ℕ)

namespace Peer

def framed (state : State) : Peer → Option FramedConnection
  | .agent connection => state.agentFramed connection
  | .edge id => state.edgeFramed id

/-- `destroy` was called on the connection. -/
def Doomed (state : State) (peer : Peer) : Prop :=
  ∃ framed, peer.framed state = some framed ∧ framed.doomed = true

def keepBytes (state : State) (rest : List UInt8) : Peer → State
  | .agent connection => state.keepAgentBytes connection rest
  | .edge id => state.keepEdgeBytes id rest

variable (env : Env)

/-- What the Relay makes of a signal of the connection. -/
def signal : Peer → State → Signal → State
  | .agent connection => agentSignal env connection
  | .edge id => edgeSignal env id

def chunk? : Peer → Event → Option (List UInt8)
  | .agent connection, .agentData other chunk => if other = connection then some chunk else none
  | .edge id, .edgeData other chunk => if other = id then some chunk else none
  | _, _ => none

/-- What `#onData` reads at the event, and what it keeps: a socket that is destroyed
delivers nothing. -/
def read? (state : State) (event : Event) (peer : Peer) : Option (List Signal × List UInt8) :=
  if state.Crashed then none
  else
    match peer.chunk? event, peer.framed state with
    | some chunk, some framed =>
      if framed.destroyed then none else some (drain env.codec (framed.buffer ++ chunk))
    | _, _ => none

/-- The Relay when it has handled the first signals it read. -/
def after (state : State) (peer : Peer) (rest : List UInt8) (signals : List Signal) : State :=
  run (peer.signal env) (peer.keepBytes state.tick rest) signals

/-- The signal makes the Relay destroy the connection: its payload is no JSON, its length
is bad, or it is a frame at which the listener of an edge throws. -/
def Violates (state : State) (peer : Peer) (signal : Signal) : Prop :=
  signal.isViolation = true ∨
    ∃ id value, peer = .edge id ∧ signal = .frame value ∧ ¬ SafeEdgeFrame env state.tick id value

end Peer

variable (env : Env)

/-- No connection emits a frame at the event after it was destroyed. -/
def NothingLate (state : State) (event : Event) : Prop :=
  ∀ (peer : Peer) signals rest before value later,
    peer.read? env state event = some (signals, rest) → signals = before ++ .frame value :: later →
      ¬ peer.Doomed (peer.after env state rest before)

/-- No frame follows a violation in what is read at the event. -/
def EndsAtViolation (state : State) (event : Event) : Prop :=
  ∀ (peer : Peer) signals rest before signal later,
    peer.read? env state event = some (signals, rest) → signals = before ++ signal :: later →
      peer.Violates env (peer.after env state rest before) signal → ∀ value, .frame value ∉ later

/-! ## One chunk -/

theorem nothing_late_iff {σ : Type} {handler : σ → Signal → σ} {good bad : σ → Prop}
    {violates : σ → Signal → Prop} (hgood : ∀ state, good state → ¬ bad state)
    (hkeeps : ∀ state signal, good state → ¬ violates state signal → good (handler state signal))
    (hbreaks : ∀ state signal, good state → violates state signal → bad (handler state signal))
    (hstays : ∀ state signal, bad state → bad (handler state signal))
    {state : σ} (hstart : good state) (signals : List Signal) :
    (∀ before value later, signals = before ++ .frame value :: later →
        ¬ bad (run handler state before)) ↔
      ∀ before signal later, signals = before ++ signal :: later →
        violates (run handler state before) signal → ∀ value, .frame value ∉ later := by
  induction signals generalizing state with
  | nil => simp
  | cons first rest ih =>
    by_cases hfirst : violates state first
    · have hbad : bad (handler state first) := hbreaks state first hstart hfirst
      constructor
      · intro h before signal later hsplit _ value hmem
        obtain ⟨earlier, last, rfl⟩ := List.append_of_mem hmem
        cases before with
        | nil =>
          cases hsplit
          exact h (first :: earlier) value last rfl (fault_run hstays hbad earlier)
        | cons other before =>
          cases hsplit
          refine h (first :: (before ++ signal :: earlier)) value last (by simp) ?_
          exact fault_run hstays hbad _
      · intro h before value later hsplit
        cases before with
        | nil =>
          cases hsplit
          exact hgood state hstart
        | cons other before =>
          cases hsplit
          exact absurd (List.mem_append_right before List.mem_cons_self)
            (h [] first _ rfl hfirst value)
    · have hnext := ih (hkeeps state first hstart hfirst)
      constructor
      · intro h before signal later hsplit hviolates
        cases before with
        | nil =>
          cases hsplit
          exact absurd hviolates hfirst
        | cons other before =>
          cases hsplit
          refine hnext.1 (fun earlier value last hrest => ?_) before signal later rfl hviolates
          exact h (first :: earlier) value last (congrArg (first :: ·) hrest)
      · intro h before value later hsplit
        cases before with
        | nil =>
          cases hsplit
          exact hgood state hstart
        | cons other before =>
          cases hsplit
          refine hnext.2 (fun earlier signal last hrest => ?_) before value later rfl
          exact h (first :: earlier) signal last (congrArg (first :: ·) hrest)

/-! ## Agents -/

variable {env}

theorem doomed_close {connection : FramedConnection} :
    connection.close.doomed = connection.doomed := by
  unfold FramedConnection.close
  split_ifs <;> rfl

theorem doomed_send {connection : FramedConnection} {payload : Json} {effect : Effect}
    (h : connection.send env.codec payload = .ok effect) :
    effect.connection.doomed = connection.doomed := by
  rcases FramedConnection.send_cases h with ⟨-, rfl⟩ | ⟨hsilent, -, -, rfl⟩ | ⟨-, -, -, rfl⟩
  · rfl
  · -- a socket that is written to after its end is destroyed, but not by `destroy`
    have hclosed : connection.closed = false := (Bool.or_eq_false_iff.1 hsilent).1
    unfold FramedConnection.doomed
    rw [hclosed, Bool.false_and, Bool.false_and]
  · rfl

/-- Whether `destroy` was called on the agent connection, if it is there. -/
def AgentDoom (connection : ℕ) (doom : Option Bool) (state : State) : Prop :=
  (state.agentFramed connection).map FramedConnection.doomed = doom

variable {state : State} {signals : List Signal}

section Agents

variable {connection : ℕ} {doom : Option Bool} {guard : State → Prop}

theorem readsAgents_agentDoom : ReadsAgents (AgentDoom connection doom) := by
  intro state next h hconns _
  unfold AgentDoom agentFramed
  rw [hconns]
  exact h

theorem AgentDoom.modify (h : AgentDoom connection doom state) (other : ℕ)
    {f : AgentConnection → AgentConnection}
    (hf : ∀ agent, (f agent).framed.doomed = agent.framed.doomed) :
    AgentDoom connection doom (state.modifyAgent other f) := by
  have hkept : ((state.agentConns.update other f).get? connection).map
      (fun agent => agent.framed.doomed) =
      (state.agentConns.get? connection).map fun agent => agent.framed.doomed :=
    map_get?_update hf connection
  unfold AgentDoom agentFramed at h ⊢
  rw [Option.map_map] at h ⊢
  exact hkept.trans h

theorem keeps_agentDoom_sendAgent {other : ℕ} {payload : Json} :
    Keeps (AgentDoom connection doom) guard (sendAgent env other payload) := by
  apply keeps_sendAgent
  intro state agent effect h _ hagent hsend
  unfold AgentDoom agentFramed at h ⊢
  unfold agentEffect putAgent
  by_cases heq : connection = other
  · subst heq
    rw [get?_set_self]
    rw [hagent] at h
    exact (congrArg some (doomed_send hsend)).trans h
  · rw [get?_set_of_ne _ heq]
    exact h

theorem keeps_agentDoom_onHello {other : ℕ} {hello : Json} :
    Keeps (AgentDoom connection doom) guard (onHello env other hello) := by
  unfold onHello
  cases helloError hello with
  | none => exact keeps_modify fun state h _ => h.modify other fun _ => rfl
  | some error =>
    apply Keeps.bind
    · exact keeps_modify fun state h _ => h.modify other fun _ => rfl
    intro _
    apply keeps_agentDoom_sendAgent.bind
    exact fun _ => keeps_modify fun state h _ => h.modify other fun agent => doomed_close

theorem agentDoom_agentSignal (h : AgentDoom connection doom state) {value : Json} :
    AgentDoom connection doom (agentSignal env connection state (.frame value)) := by
  have htick : AgentDoom connection doom state.tick := h
  have hraise : ∀ state fault, AgentDoom connection doom state →
      AgentDoom connection doom (State.raise state fault) := fun _ _ h => h
  unfold agentSignal
  dsimp only
  split
  · exact htick
  · split
    · have hcleared : AgentDoom connection doom (state.tick.clearAuthTimer connection) :=
        htick.modify connection fun _ => rfl
      have hgreets : Keeps (AgentDoom connection doom) (fun _ => True)
          (onHello env connection value) := keeps_agentDoom_onHello
      exact keeps_voidAsync hraise hgreets hcleared trivial
    · rename_i agentId _ _
      have hanswers : Keeps (AgentDoom connection doom) (fun _ => True)
          (onAgentFrame env agentId value) := by
        have hacks : ∀ text, Keeps (AgentDoom connection doom) (fun _ => True)
            (sendToAgent env agentId (heartbeatAckFrame text)) := fun text =>
          keeps_sendToAgent env fun other => keeps_agentDoom_sendAgent
        apply (readsAgents_agentDoom.booked.keeps_onAgentFrame env value hacks).mono
        exact fun _ _ _ _ => trivial
      exact keeps_voidAsync hraise hanswers htick trivial
    · exact htick

theorem agentDoom_destroyAgent {state : State} {before : Bool}
    (h : AgentDoom connection (some before) state) :
    AgentDoom connection (some true) (state.destroyAgent connection) := by
  obtain ⟨framed, hframed, -⟩ := Option.map_eq_some_iff.1 h
  obtain ⟨agent, hagent, rfl⟩ := Option.map_eq_some_iff.1 hframed
  unfold AgentDoom agentFramed destroyAgent modifyAgent
  rw [get?_update_self, hagent]
  rfl

end Agents

theorem doomed_iff_agentDoom {connection : ℕ} :
    (Peer.agent connection).Doomed state ↔ AgentDoom connection (some true) state :=
  Option.map_eq_some_iff.symm

theorem nothing_late_agent {connection : ℕ} (hstart : AgentDoom connection (some false) state)
    {signals : List Signal} :
    (∀ before value later, signals = before ++ .frame value :: later →
        ¬ (Peer.agent connection).Doomed (run (agentSignal env connection) state before)) ↔
      ∀ before signal later, signals = before ++ signal :: later →
        (Peer.agent connection).Violates env (run (agentSignal env connection) state before)
          signal → ∀ value, .frame value ∉ later := by
  refine @nothing_late_iff _ (agentSignal env connection) (AgentDoom connection (some false))
    (Peer.Doomed · (.agent connection)) (fun state => (Peer.agent connection).Violates env state)
    ?_ ?_ ?_ ?_ state hstart signals
  · intro state hgood hbad
    have hboth : some false = some true := hgood.symm.trans (doomed_iff_agentDoom.1 hbad)
    cases hboth
  · intro state signal hgood hviolates
    cases signal with
    | frame value => exact agentDoom_agentSignal hgood
    | malformed | invalidLength => exact absurd (.inl rfl) hviolates
  · intro state signal hgood hviolates
    apply doomed_iff_agentDoom.2
    rcases hviolates with hsignal | ⟨_, _, hpeer, -⟩
    · cases signal with
      | frame value => cases hsignal
      | malformed | invalidLength => exact @agentDoom_destroyAgent connection state.tick false hgood
    · cases hpeer
  · intro state signal hbad
    have hdoom := doomed_iff_agentDoom.1 hbad
    apply doomed_iff_agentDoom.2
    cases signal with
    | frame value => exact agentDoom_agentSignal hdoom
    | malformed | invalidLength => exact @agentDoom_destroyAgent connection state.tick true hdoom

/-! ## Edges -/

/-- Whether `destroy` was called on the edge connection, if it is there. -/
def EdgeDoom (edge : ℕ) (doom : Option Bool) (state : State) : Prop :=
  (state.edgeFramed edge).map FramedConnection.doomed = doom

section Edges

variable {edge : ℕ}

theorem edgeDoom_destroyEdge {state : State} {before : Bool}
    (h : EdgeDoom edge (some before) state) : EdgeDoom edge (some true) (state.destroyEdge edge) := by
  obtain ⟨framed, hframed, -⟩ := Option.map_eq_some_iff.1 h
  obtain ⟨conn, hconn, rfl⟩ := Option.map_eq_some_iff.1 hframed
  unfold EdgeDoom destroyEdge edgeEffect
  rw [hconn]
  dsimp only
  have hput : (state.putEdge edge { conn with
      framed := conn.framed.destroy.connection }).edgeFramed edge =
      some conn.framed.destroy.connection := by
    unfold edgeFramed putEdge
    rw [get?_set_self]
    rfl
  split_ifs
  · change Option.map _ ((state.putEdge edge _).edgeFramed edge) = _
    rw [hput]
    rfl
  · rw [hput]
    rfl

theorem edgeDoom_edgeSignal (h : EdgeDoom edge (some true) state) {signal : Signal} :
    EdgeDoom edge (some true) (edgeSignal env edge state signal) := by
  have htick : EdgeDoom edge (some true) state.tick := h
  cases signal with
  | malformed | invalidLength => exact edgeDoom_destroyEdge htick
  | frame value =>
    have hsteady := keeps_steady_onEdgeFrame env edge state.tick value state.tick ⟨rfl, rfl⟩ trivial
    unfold edgeSignal frameListener
    dsimp only
    generalize exec (onEdgeFrame env edge value) state.tick = outcome at hsteady
    obtain ⟨result, next⟩ := outcome
    have hnext : EdgeDoom edge (some true) next := by
      unfold EdgeDoom
      rw [show next.edgeFramed edge = state.tick.edgeFramed edge from hsteady.2]
      exact htick
    cases result with
    | ok a => exact hnext
    | error error => exact edgeDoom_destroyEdge hnext

theorem edgeSignal_frame (halive : ¬ state.Crashed) (hdoom : EdgeDoom edge (some false) state)
    {value : Json} :
    (SafeEdgeFrame env state.tick edge value →
      ¬ (edgeSignal env edge state (.frame value)).Crashed ∧
        EdgeDoom edge (some false) (edgeSignal env edge state (.frame value))) ∧
    (¬ SafeEdgeFrame env state.tick edge value →
      EdgeDoom edge (some true) (edgeSignal env edge state (.frame value))) := by
  have hsteady := keeps_steady_onEdgeFrame env edge state.tick value state.tick ⟨rfl, rfl⟩ trivial
  have hguard := guarded_onEdgeFrame env edge value state.tick
  unfold Fails at hguard
  unfold edgeSignal frameListener
  dsimp only
  generalize exec (onEdgeFrame env edge value) state.tick = outcome at hsteady hguard
  obtain ⟨result, next⟩ := outcome
  have haliveNext : ¬ next.Crashed := by
    unfold Crashed
    rw [show next.faults = state.tick.faults from hsteady.1]
    exact halive
  have hnext : EdgeDoom edge (some false) next := by
    unfold EdgeDoom
    rw [show next.edgeFramed edge = state.tick.edgeFramed edge from hsteady.2]
    exact hdoom
  have haliveTick : ¬ state.tick.Crashed := halive
  cases result with
  | ok a =>
    refine ⟨fun _ => ⟨haliveNext, hnext⟩, fun hunsafe => ?_⟩
    exact absurd (hguard.2 (.inr hunsafe)) haliveNext
  | error error =>
    refine ⟨fun hsafe => ?_, fun _ => edgeDoom_destroyEdge hnext⟩
    exact absurd hsafe ((hguard.1 trivial).resolve_left haliveTick)

end Edges

theorem doomed_iff_edgeDoom {edge : ℕ} :
    (Peer.edge edge).Doomed state ↔ EdgeDoom edge (some true) state :=
  Option.map_eq_some_iff.symm

theorem nothing_late_edge {edge : ℕ} (halive : ¬ state.Crashed)
    (hstart : EdgeDoom edge (some false) state) {signals : List Signal} :
    (∀ before value later, signals = before ++ .frame value :: later →
        ¬ (Peer.edge edge).Doomed (run (edgeSignal env edge) state before)) ↔
      ∀ before signal later, signals = before ++ signal :: later →
        (Peer.edge edge).Violates env (run (edgeSignal env edge) state before) signal →
          ∀ value, .frame value ∉ later := by
  refine @nothing_late_iff _ (edgeSignal env edge)
    (fun state => ¬ state.Crashed ∧ EdgeDoom edge (some false) state)
    (Peer.Doomed · (.edge edge)) (fun state => (Peer.edge edge).Violates env state)
    ?_ ?_ ?_ ?_ state ⟨halive, hstart⟩ signals
  · intro state hgood hbad
    have hboth : some false = some true := hgood.2.symm.trans (doomed_iff_edgeDoom.1 hbad)
    cases hboth
  · intro state signal hgood hviolates
    cases signal with
    | frame value =>
      apply (edgeSignal_frame hgood.1 hgood.2).1
      by_contra hunsafe
      exact hviolates (.inr ⟨edge, value, rfl, rfl, hunsafe⟩)
    | malformed | invalidLength => exact absurd (.inl rfl) hviolates
  · intro state signal hgood hviolates
    apply doomed_iff_edgeDoom.2
    rcases hviolates with hsignal | ⟨other, value, hpeer, rfl, hunsafe⟩
    · cases signal with
      | frame value => cases hsignal
      | malformed | invalidLength => exact @edgeDoom_destroyEdge edge state.tick false hgood.2
    · cases hpeer
      exact (edgeSignal_frame hgood.1 hgood.2).2 hunsafe
  · intro state signal hbad
    exact doomed_iff_edgeDoom.2 (edgeDoom_edgeSignal (doomed_iff_edgeDoom.1 hbad))

/-! ## Runs -/

theorem read?_eq_some {event : Event} {peer : Peer} {rest : List UInt8}
    (h : peer.read? env state event = some (signals, rest)) :
    ¬ state.Crashed ∧ ∃ chunk framed, peer.chunk? event = some chunk ∧
      peer.framed state = some framed ∧ framed.destroyed = false ∧
      drain env.codec (framed.buffer ++ chunk) = (signals, rest) := by
  unfold Peer.read? at h
  split_ifs at h with hcrashed
  split at h
  · rename_i chunk framed hchunk hframed
    split_ifs at h with hdestroyed
    exact ⟨hcrashed, chunk, framed, hchunk, hframed, by simpa using hdestroyed, Option.some.inj h⟩
  · cases h

theorem doom_of_read {framed : FramedConnection} (h : framed.destroyed = false) :
    framed.doomed = false := by
  unfold FramedConnection.doomed
  rw [h, Bool.and_false]

theorem nothingLate_iff_endsAtViolation (state : State) (event : Event) :
    NothingLate env state event ↔ EndsAtViolation env state event := by
  refine forall_congr' fun peer => ?_
  suffices hread : ∀ signals rest, peer.read? env state event = some (signals, rest) →
      ((∀ before value later, signals = before ++ .frame value :: later →
          ¬ peer.Doomed (peer.after env state rest before)) ↔
        ∀ before signal later, signals = before ++ signal :: later →
          peer.Violates env (peer.after env state rest before) signal →
            ∀ value, .frame value ∉ later) from by
    constructor
    · intro h signals rest before signal later hsome
      exact (hread signals rest hsome).1
        (fun before value later => h signals rest before value later hsome) before signal later
    · intro h signals rest before value later hsome
      exact (hread signals rest hsome).2
        (fun before signal later => h signals rest before signal later hsome) before value later
  intro signals rest hsome
  obtain ⟨hrunning, -, framed, -, hframed, hopen, -⟩ := read?_eq_some hsome
  have hdoom := doom_of_read hopen
  cases peer with
  | agent connection =>
    have hstart : AgentDoom connection (some false) (state.tick.keepAgentBytes connection rest) := by
      have htick : AgentDoom connection (some false) state.tick := by
        unfold AgentDoom
        rw [show state.tick.agentFramed connection = some framed from hframed, Option.map_some,
          hdoom]
      exact htick.modify connection fun _ => rfl
    exact nothing_late_agent hstart
  | edge id =>
    have hstart : EdgeDoom id (some false) (state.tick.keepEdgeBytes id rest) := by
      obtain ⟨conn, hconn, rfl⟩ := Option.map_eq_some_iff.1 hframed
      have hkept : (state.tick.keepEdgeBytes id rest).edgeConns.get? id =
          (state.edgeConns.get? id).map _ := get?_update_self _ _ _
      unfold EdgeDoom edgeFramed
      rw [hkept, hconn]
      exact congrArg some hdoom
    have halive : ¬ (state.tick.keepEdgeBytes id rest).Crashed := hrunning
    exact nothing_late_edge halive hstart

/-! ## One connection and its stream -/

/-- The frames before the first violation of a stream of bytes. -/
def lawful (codec : Codec) (bytes : List UInt8) : List Json :=
  ((drain codec bytes).1.takeWhile fun signal => !signal.isViolation).filterMap Signal.value?

namespace Receiver

/-- The frames that were emitted. -/
def heard (receiver : Receiver) : List Json := receiver.signals.filterMap Signal.value?

/-- One signal; the Relay destroys the connection at a violation. -/
def emit (receiver : Receiver) (signal : Signal) : Receiver where
  connection :=
    if signal.isViolation then receiver.connection.destroy.connection else receiver.connection
  signals := receiver.signals ++ [signal]

variable (codec : Codec)

/-- `#onData` with the Relay's listeners. -/
def onRelayData (receiver : Receiver) (chunk : List UInt8) : Receiver :=
  if receiver.connection.destroyed then receiver
  else
    let read := drain codec (receiver.connection.buffer ++ chunk)
    run emit { receiver with connection.buffer := read.2 } read.1

/-- The connection when the chunks have arrived. -/
def hear (chunks : List (List UInt8)) : Receiver := run (onRelayData codec) {} chunks

/-- No frame follows a violation in the chunk. -/
def ViolationLast (receiver : Receiver) (chunk : List UInt8) : Prop :=
  receiver.connection.destroyed = false → ∀ before signal later,
    (drain codec (receiver.connection.buffer ++ chunk)).1 = before ++ signal :: later →
      signal.isViolation = true → ∀ value, .frame value ∉ later

theorem run_emit (receiver : Receiver) (signals : List Signal) :
    run emit receiver signals =
      { connection := if signals.any Signal.isViolation then receiver.connection.destroy.connection
          else receiver.connection
        signals := receiver.signals ++ signals } := by
  induction signals generalizing receiver with
  | nil => simp
  | cons signal rest ih =>
    rw [run_cons, ih, emit, List.any_cons]
    rw [List.append_assoc]
    cases signal.isViolation <;> cases rest.any Signal.isViolation <;> rfl

theorem run_onRelayData_of_destroyed {receiver : Receiver}
    (h : receiver.connection.destroyed = true) (chunks : List (List UInt8)) :
    run (onRelayData codec) receiver chunks = receiver ∧
      Along (onRelayData codec) (ViolationLast codec) receiver chunks := by
  induction chunks with
  | nil => exact ⟨rfl, trivial⟩
  | cons chunk rest ih =>
    have hsame : onRelayData codec receiver chunk = receiver := if_pos h
    rw [run_cons, along_cons, hsame]
    refine ⟨ih.1, fun hopen => ?_, ih.2⟩
    rw [h] at hopen
    cases hopen

end Receiver

theorem filterMap_eq_takeWhile_iff (signals : List Signal) :
    signals.filterMap Signal.value? =
        (signals.takeWhile fun signal => !signal.isViolation).filterMap Signal.value? ↔
      ∀ before signal later, signals = before ++ signal :: later → signal.isViolation = true →
        ∀ value, .frame value ∉ later := by
  induction signals with
  | nil => simp
  | cons first rest ih =>
    cases hfirst : first.isViolation with
    | true =>
      have hnone : first.value? = none := by
        cases first with
        | frame value => cases hfirst
        | _ => rfl
      rw [List.takeWhile_cons_of_neg (by simp [hfirst]), List.filterMap_cons_none hnone,
        List.filterMap_nil, List.filterMap_eq_nil_iff]
      constructor
      · intro h before signal later hsplit _ value hmem
        have hrest : Signal.frame value ∈ rest := by
          cases before with
          | nil =>
            cases hsplit
            exact hmem
          | cons other before =>
            cases hsplit
            simp [hmem]
        have hvalue := h _ hrest
        cases hvalue
      · intro h signal hmem
        cases signal with
        | frame value => exact absurd hmem (h [] first rest rfl hfirst value)
        | _ => rfl
    | false =>
      obtain ⟨value, rfl⟩ : ∃ value, first = .frame value := by
        cases first with
        | frame value => exact ⟨value, rfl⟩
        | _ => cases hfirst
      rw [List.takeWhile_cons_of_pos (by simp [hfirst])]
      have hvalue : (Signal.frame value).value? = some value := rfl
      rw [List.filterMap_cons_some hvalue, List.filterMap_cons_some hvalue, List.cons_inj_right, ih]
      constructor
      · intro h before signal later hsplit hviolation
        cases before with
        | nil =>
          cases hsplit
          cases hviolation
        | cons other before =>
          cases hsplit
          exact h before signal later rfl hviolation
      · intro h before signal later hsplit
        exact h (.frame value :: before) signal later (congrArg (_ :: ·) hsplit)

theorem drain_prefix {codec : Codec} {buffer more : List UInt8} :
    (drain codec buffer).1 <+: (drain codec (buffer ++ more)).1 := by
  by_cases hbad : BadLength (drain codec buffer).2
  · rw [drain_append_of_badLength hbad]
  · rw [drain_append hbad]
    exact List.prefix_append _ _

/-- A connection that has heard all of the bytes, and no violation among them. -/
structure Hears (codec : Codec) (bytes : List UInt8) (receiver : Receiver) : Prop where
  receiver : receiver = ⟨{ buffer := (drain codec bytes).2 }, (drain codec bytes).1⟩
  lawful : ∀ signal ∈ (drain codec bytes).1, signal.isViolation = false

theorem takeWhile_append_of_violation (h : ∃ signal ∈ signals, signal.isViolation = true)
    (more : List Signal) :
    (signals ++ more).takeWhile (fun signal => !signal.isViolation) =
      signals.takeWhile fun signal => !signal.isViolation := by
  induction signals with
  | nil =>
    obtain ⟨_, hmem, -⟩ := h
    cases hmem
  | cons first rest ih =>
    rw [List.cons_append]
    cases hfirst : first.isViolation with
    | true =>
      rw [List.takeWhile_cons_of_neg (by simp [hfirst]),
        List.takeWhile_cons_of_neg (by simp [hfirst])]
    | false =>
      rw [List.takeWhile_cons_of_pos (by simp [hfirst]),
        List.takeWhile_cons_of_pos (by simp [hfirst]), ih]
      obtain ⟨signal, hmem, hviolation⟩ := h
      rcases List.mem_cons.1 hmem with rfl | hrest
      · rw [hfirst] at hviolation
        cases hviolation
      · exact ⟨signal, hrest, hviolation⟩

theorem heard_run_iff {codec : Codec} {bytes : List UInt8} {receiver : Receiver}
    (h : Hears codec bytes receiver) {chunks : List (List UInt8)} :
    (run (Receiver.onRelayData codec) receiver chunks).heard =
        lawful codec (bytes ++ chunks.flatten) ↔
      Along (Receiver.onRelayData codec) (Receiver.ViolationLast codec) receiver chunks := by
  induction chunks generalizing bytes receiver with
  | nil =>
    rw [List.flatten_nil, List.append_nil, h.receiver]
    refine iff_of_true ?_ trivial
    unfold Receiver.heard lawful
    rw [run_nil, List.takeWhile_eq_self_iff.2 (fun signal hmem => by simp [h.lawful signal hmem])]
  | cons chunk rest ih =>
    have hgood : ¬ BadLength (drain codec bytes).2 := fun hbad => by
      have hviolation := h.lawful _ (invalidLength_mem_drain.2 hbad)
      cases hviolation
    have hmore := drain_append hgood chunk
    have hnext : Receiver.onRelayData codec receiver chunk =
        run Receiver.emit ⟨{ buffer := (drain codec (bytes ++ chunk)).2 }, (drain codec bytes).1⟩
          (drain codec ((drain codec bytes).2 ++ chunk)).1 := by
      rw [h.receiver, hmore]
      rfl
    have hlast : Receiver.ViolationLast codec receiver chunk ↔
        (drain codec ((drain codec bytes).2 ++ chunk)).1.filterMap Signal.value? =
          ((drain codec ((drain codec bytes).2 ++ chunk)).1.takeWhile
            fun signal => !signal.isViolation).filterMap Signal.value? := by
      rw [filterMap_eq_takeWhile_iff, h.receiver]
      exact ⟨fun h => h rfl, fun h _ => h⟩
    rw [List.flatten_cons, ← List.append_assoc, run_cons, along_cons, hlast, hnext,
      Receiver.run_emit]
    generalize (drain codec ((drain codec bytes).2 ++ chunk)).1 = signals at hmore ⊢
    by_cases hviolation : ∃ signal ∈ signals, signal.isViolation = true
    · -- the rest of the stream is not heard
      rw [if_pos (List.any_eq_true.2 hviolation)]
      obtain ⟨hstop, halong⟩ := @Receiver.run_onRelayData_of_destroyed codec
        ⟨FramedConnection.destroy { buffer := (drain codec (bytes ++ chunk)).2 } |>.connection,
          (drain codec bytes).1 ++ signals⟩ rfl rest
      obtain ⟨later, hlater⟩ := drain_prefix
      rw [hstop, and_iff_left halong]
      unfold Receiver.heard lawful
      rw [← hlater, hmore]
      rw [List.append_assoc, List.takeWhile_append_of_pos
        (fun signal hmem => by simp [h.lawful signal hmem]),
        takeWhile_append_of_violation hviolation, List.filterMap_append, List.filterMap_append]
      exact List.append_right_inj _
    · have hclean : ∀ signal ∈ signals, signal.isViolation = false := by
        simpa using hviolation
      have hnone : signals.any Signal.isViolation = false := by
        simpa using hclean
      rw [hnone, if_neg Bool.false_ne_true]
      have hself : (signals.takeWhile fun signal => !signal.isViolation) = signals :=
        List.takeWhile_eq_self_iff.2 fun signal hmem => by simp [hclean signal hmem]
      rw [hself, and_iff_right rfl]
      apply ih
      refine ⟨by rw [hmore], ?_⟩
      rw [hmore]
      intro signal hmem
      exact (List.mem_append.1 hmem).elim (h.lawful signal) (hclean signal)

/-- Nothing is emitted late exactly in the runs in which no frame follows a violation in
its chunk, and exactly when a stream is cut so, the frames that are acted upon are those
before its first violation. -/
theorem nothingLate_run_iff :
    (∀ events, Along (step env) (NothingLate env) initial events ↔
      Along (step env) (EndsAtViolation env) initial events) ∧
    ∀ chunks, (Receiver.hear env.codec chunks).heard = lawful env.codec chunks.flatten ↔
      Along (Receiver.onRelayData env.codec) (Receiver.ViolationLast env.codec) {} chunks := by
  constructor
  · intro events
    have hiff : ∀ state event, NothingLate env state event ↔ EndsAtViolation env state event :=
      nothingLate_iff_endsAtViolation
    exact ⟨Along.mono fun state event => (hiff state event).1,
      Along.mono fun state event => (hiff state event).2⟩
  · intro chunks
    have hstart : Hears env.codec [] {} := ⟨rfl, fun _ hmem => by cases hmem⟩
    exact heard_run_iff hstart

/-! ## A frame behind a payload that is no JSON -/

def brokenFrame : List UInt8 := Codec.writeUInt32BE 1 ++ [123]

def brokenEnv : Env := .plain [agentHello "a1"]

/-- The hello behind the broken frame is emitted, unless it comes in a chunk of its own. -/
theorem not_nothingLate_brokenFrame :
    ¬ Along (step brokenEnv) (NothingLate brokenEnv) initial
        [.agentConnect 0, .agentData 0 (brokenFrame ++ Codec.wire (agentHello "a1"))] ∧
      (Receiver.hear brokenEnv.codec [brokenFrame ++ Codec.wire (agentHello "a1")]).heard ≠
        (Receiver.hear brokenEnv.codec [brokenFrame, Codec.wire (agentHello "a1")]).heard := by
  constructor
  · rintro ⟨-, hlate, -⟩
    refine hlate (.agent 0) [.malformed, .frame (agentHello "a1")] [] [.malformed] (agentHello "a1")
      [] (by decide +kernel) rfl ?_
    apply Option.map_eq_some_iff.1
    decide +kernel
  · decide +kernel

end Tunnara.Relay
