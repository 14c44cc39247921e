/-
# A Relay and its agents

The Relay's connections with an agent at the other end of each. What the Relay
writes to a connection arrives in order, cut into chunks anywhere. The law of the
handshake is that the first frame an agent receives is its greeting, or the error
that refuses it, and that no frame arrives while nobody listens. It holds in the
runs that write nothing to an announcing agent and deliver the first frame alone.
-/

import Tunnara.Agent.Handshake
import Tunnara.Relay.Handshake

namespace Tunnara.Agent

open Relay Transition

structure System where
  relay : State := {}
  peers : OrdMap ℕ Peer := .empty

/-- The agent at the other end of a connection. -/
def System.peer (system : System) (connection : ℕ) : Peer :=
  (system.peers.get? connection).getD {}

/-- The next frames on their way to the agent. -/
def System.chunk (system : System) (connection count : ℕ) : List Json :=
  match system.relay.agentConns.get? connection with
  | none => []
  | some agent => (agent.framed.sent.drop (system.peer connection).received).take count

inductive SystemEvent
  | relay (event : Event)
  /-- A chunk completes the next frames of a connection. -/
  | deliver (connection count : ℕ)
  | giveUp (connection : ℕ)

variable (env : Env)

def systemStep (system : System) : SystemEvent → System
  | .relay event => { system with relay := step env system.relay event }
  | .deliver connection count =>
    { system with
      peers := system.peers.set connection
        ((system.peer connection).onChunk (system.chunk connection count)) }
  | .giveUp connection =>
    { system with peers := system.peers.set connection (system.peer connection).giveUp }

/-- The handshake on one connection: the agent was greeted first, or refused by the
Relay, and has missed nothing. -/
structure HandshakeOrder (system : System) (connection : ℕ) : Prop where
  first : ∀ frame, (system.peer connection).first = some frame →
    hasType frame "agent_hello_ok" ∨ hasType frame "error" ∧
      ∃ agent, system.relay.agentConns.get? connection = some agent ∧ agent.phase = .refused
  missed : (system.peer connection).missed = []

/-- The Relay writes nothing to an announcing agent, the first frame of an agent
arrives alone in its chunk, and nothing arrives after a failed handshake. -/
def Undisturbed (system : System) : SystemEvent → Prop
  | .relay event => Quiet env system.relay event
  | .deliver connection count =>
    ((system.peer connection).stage = .awaitingFirst → (system.chunk connection count).length ≤ 1) ∧
    ((system.peer connection).stage = .rejected → system.chunk connection count = [])
  | .giveUp _ => True

instance (system : System) : ∀ event, Decidable (Undisturbed env system event)
  | .relay _ => inferInstanceAs (Decidable (Quiet _ _ _))
  | .deliver _ _ => inferInstanceAs (Decidable ((_ = _ → _ ≤ _) ∧ (_ = _ → _ = _)))
  | .giveUp _ => isTrue trivial

/-- An agent between two chunks. -/
structure Settled (peer : Peer) : Prop where
  not_accepted : peer.stage ≠ .accepted
  fresh : peer.stage = .awaitingFirst → peer.received = 0

structure Undisrupted (system : System) : Prop where
  ordered : Ordered .empty system.relay
  settled : ∀ connection, Settled (system.peer connection)
  handshake : ∀ connection, HandshakeOrder system connection

theorem hasType_helloOkFrame {agentId : String} :
    hasType (helloOkFrame agentId) "agent_hello_ok" = true := by
  simp [hasType, helloOkFrame, frameOf, text, Json.get?, Json.lookup]

theorem hasType_errorFrame {error : JsError} : hasType (errorFrame error) "error" = true := by
  simp [hasType, errorFrame, frameOf, text, Json.get?, Json.lookup]

theorem head_of_sentInOrder {agent : AgentConnection} {frame : Json} {rest : List Json}
    (h : SentInOrder agent) (hsent : agent.framed.sent = frame :: rest) :
    hasType frame "agent_hello_ok" ∨ hasType frame "error" ∧ agent.phase = .refused := by
  unfold SentInOrder at h
  rw [hsent] at h
  cases hphase : agent.phase with
  | ready =>
    rw [hphase] at h
    rcases h with ⟨hnone, -⟩ | ⟨agentId, more, heq⟩
    · cases hnone
    · cases heq
      exact .inl hasType_helloOkFrame
  | refused =>
    rw [hphase] at h
    rcases h with hnone | ⟨error, heq⟩
    · cases hnone
    · cases heq
      exact .inr ⟨hasType_errorFrame, rfl⟩
  | awaitingHello | authenticating | announcing => simp [hphase] at h

variable {connection : ℕ} {system : System}

theorem sentInOrder_of_ordered {state : State} (h : Ordered .empty state) {agent : AgentConnection}
    (hagent : state.agentConns.get? connection = some agent) :
    SentInOrder agent :=
  h.elim (fun hin => hin.sent connection agent hagent)
    fun hcrashed => hcrashed.2.sent connection agent hagent

theorem peer_set (system : System) (connection other : ℕ) (peer : Peer) :
    ({ system with peers := system.peers.set connection peer } : System).peer other =
      if other = connection then peer else system.peer other := by
  unfold System.peer
  rw [OrdMap.get?_set]
  split <;> rfl

theorem undisrupted_relay (h : Undisrupted system) {event : Event}
    (hquiet : Quiet env system.relay event) :
    Undisrupted (systemStep env system (.relay event)) := by
  have hordered := ordered_step env h.ordered.rebase hquiet
  have hrefused : ∀ connection agent, system.relay.agentConns.get? connection = some agent →
      agent.phase = .refused → ∃ later,
        (step env system.relay event).agentConns.get? connection = some later ∧
          later.phase = .refused :=
    hordered.elim Orderly.refused fun hcrashed => hcrashed.2.refused
  refine ⟨ordered_step env h.ordered hquiet, h.settled, fun connection => ⟨?_, ?_⟩⟩
  · intro frame hframe
    refine ((h.handshake connection).first frame hframe).imp id ?_
    rintro ⟨herror, agent, hagent, hphase⟩
    exact ⟨herror, hrefused connection agent hagent hphase⟩
  · exact (h.handshake connection).missed

theorem undisrupted_setPeer (h : Undisrupted system) {connection : ℕ} {peer : Peer}
    (hsettled : Settled peer) (hfirst : ∀ frame, peer.first = some frame →
      hasType frame "agent_hello_ok" ∨ hasType frame "error" ∧
        ∃ agent, system.relay.agentConns.get? connection = some agent ∧ agent.phase = .refused)
    (hmissed : peer.missed = []) :
    Undisrupted { system with peers := system.peers.set connection peer } := by
  refine ⟨h.ordered, ?_, ?_⟩
  · intro other
    rw [peer_set]
    split
    · exact hsettled
    · exact h.settled other
  · intro other
    by_cases heq : other = connection
    · subst heq
      constructor
      · rw [peer_set, if_pos rfl]
        exact hfirst
      · rw [peer_set, if_pos rfl]
        exact hmissed
    · constructor
      · rw [peer_set, if_neg heq]
        exact (h.handshake other).first
      · rw [peer_set, if_neg heq]
        exact (h.handshake other).missed

theorem onChunk_nil {peer : Peer} (h : peer.stage ≠ .accepted) : peer.onChunk [] = peer := by
  simp [Peer.onChunk, Peer.settle, h]

theorem chunk_first {count : ℕ} {frame : Json} (hreceived : (system.peer connection).received = 0)
    (hchunk : system.chunk connection count = [frame]) :
    ∃ agent rest, system.relay.agentConns.get? connection = some agent ∧
      agent.framed.sent = frame :: rest := by
  unfold System.chunk at hchunk
  cases hagent : system.relay.agentConns.get? connection with
  | none => simp [hagent] at hchunk
  | some agent =>
    rw [hagent, hreceived] at hchunk
    simp only [List.drop_zero] at hchunk
    refine ⟨agent, agent.framed.sent.tail, rfl, ?_⟩
    cases hsent : agent.framed.sent with
    | nil => simp [hsent] at hchunk
    | cons head rest =>
      cases count with
      | zero => simp [hsent] at hchunk
      | succ count =>
        rw [hsent, List.take_succ_cons] at hchunk
        rw [(List.cons.inj hchunk).1, List.tail_cons]

theorem undisrupted_deliver (h : Undisrupted system) {count : ℕ}
    (hfirst : (system.peer connection).stage = .awaitingFirst →
      (system.chunk connection count).length ≤ 1)
    (hrejected : (system.peer connection).stage = .rejected → system.chunk connection count = []) :
    Undisrupted (systemStep env system (.deliver connection count)) := by
  have hsettled := h.settled connection
  have horder := h.handshake connection
  have hidle : system.chunk connection count = [] →
      Undisrupted (systemStep env system (.deliver connection count)) := by
    intro hempty
    have hsame : (system.peer connection).onChunk (system.chunk connection count) =
        system.peer connection := by rw [hempty, onChunk_nil hsettled.not_accepted]
    have hset := undisrupted_setPeer h hsettled horder.first horder.missed
    simpa only [systemStep, hsame] using hset
  cases hstage : (system.peer connection).stage with
  | awaitingFirst =>
    cases hchunk : system.chunk connection count with
    | nil => exact hidle hchunk
    | cons frame rest =>
      have hone := hfirst hstage
      rw [hchunk] at hone
      have hrest : rest = [] := by simpa using hone
      subst hrest
      obtain ⟨hgot, hmissed, hnext⟩ := Peer.onChunk_first hstage
      obtain ⟨agent, more, hagent, hsent⟩ := chunk_first (hsettled.fresh hstage) hchunk
      have hhead := head_of_sentInOrder (sentInOrder_of_ordered h.ordered hagent) hsent
      dsimp only [systemStep]
      rw [hchunk]
      refine undisrupted_setPeer h ?_ ?_ (hmissed.trans horder.missed)
      · rcases hnext with hnext | hnext <;> constructor <;> simp [hnext]
      · intro found hfound
        rw [hgot] at hfound
        cases hfound
        exact hhead.imp id fun herror => ⟨herror.1, agent, hagent, herror.2⟩
  | steady =>
    obtain ⟨hstill, hgot, hmissed⟩ :=
      Peer.onChunk_of_steady hstage
    refine undisrupted_setPeer h ?_ ?_ (hmissed.trans horder.missed)
    · constructor <;> simp [hstill]
    · rw [hgot]
      exact horder.first
  | accepted => exact absurd hstage hsettled.not_accepted
  | rejected => exact hidle (hrejected hstage)

theorem undisrupted_giveUp (h : Undisrupted system) {connection : ℕ} :
    Undisrupted (systemStep env system (.giveUp connection)) := by
  have hsettled := h.settled connection
  have horder := h.handshake connection
  unfold systemStep Peer.giveUp
  dsimp only
  split
  · exact undisrupted_setPeer h ⟨by simp, by simp⟩ horder.first horder.missed
  · exact undisrupted_setPeer h hsettled horder.first horder.missed

theorem undisrupted_step {event : SystemEvent} (h : Undisrupted system)
    (hguard : Undisturbed env system event) : Undisrupted (systemStep env system event) := by
  cases event with
  | relay event => exact undisrupted_relay env h hguard
  | deliver connection count => exact undisrupted_deliver env h hguard.1 hguard.2
  | giveUp connection => exact undisrupted_giveUp env h

theorem undisrupted_initial : Undisrupted {} where
  ordered := .inl orderly_empty
  settled _ := ⟨by simp [System.peer], fun _ => rfl⟩
  handshake _ := ⟨fun _ hnone => by simp [System.peer] at hnone, rfl⟩

/-- In every undisturbed run each agent is greeted or refused first and misses nothing. -/
theorem handshakeOrder_of_undisturbed (events : List SystemEvent)
    (h : Along (systemStep env) (Undisturbed env) {} events) (connection : ℕ) :
    HandshakeOrder (run (systemStep env) {} events) connection :=
  (h.invariant (fun _ _ => undisrupted_step env) undisrupted_initial).handshake connection

def helloFrame : Json := .obj [("type", .str "agent_hello"), ("agentId", .str "a1")]

def requestFrame : Json := .obj [("type", .str "proxy_request"), ("requestId", .str "r1")]

def routeToAgent : Route where
  tunnel := some ⟨text "active", text "http"⟩
  target := some ⟨text "t1", "a1", text "localhost", some (.num 80), none⟩

def acceptedHello : List SystemEvent :=
  [.relay (.agentConnect 0), .relay (.agentData 0 (Codec.wire helloFrame)),
    .relay (.authenticated 0 (.ok "a1"))]

/-- An edge asks for a tunnel of the agent; the clock names its lookup. -/
def edgeRequest (lookup : ℕ) : List SystemEvent :=
  [.relay (.edgeConnect 0), .relay (.edgeData 0 (Codec.wire requestFrame)),
    .relay (.routeResolved lookup routeToAgent)]

def overtakingRun : List SystemEvent := acceptedHello ++ edgeRequest 7 ++ [.deliver 0 1]

def sameChunkRun : List SystemEvent :=
  acceptedHello ++ [.relay (.presenceSettled 0)] ++ edgeRequest 8 ++ [.deliver 0 2]

def politeRun : List SystemEvent :=
  acceptedHello ++ [.relay (.presenceSettled 0), .deliver 0 1] ++ edgeRequest 8 ++ [.deliver 0 1]

def workedEnv : Env := .plain [helloFrame, requestFrame]

theorem not_handshakeOrder_overtaking :
    ¬ HandshakeOrder (run (systemStep workedEnv) {} overtakingRun) 0 ∧
    ¬ HandshakeOrder (run (systemStep workedEnv) {} sameChunkRun) 0 := by
  constructor
  · intro h
    have hfirst : ((run (systemStep workedEnv) {} overtakingRun).peer 0).first.map
        (fun frame => hasType frame "proxy_request") = some true := by
      decide +kernel
    obtain ⟨frame, hframe, htype⟩ := Option.map_eq_some_iff.1 hfirst
    have hother := hasType_other htype
    rcases h.first frame hframe with hhello | ⟨herror, -⟩
    · simp [hother] at hhello
    · simp [hother] at herror
  · intro h
    have hmissed : ((run (systemStep workedEnv) {} sameChunkRun).peer 0).missed ≠ [] := by
      decide +kernel
    exact hmissed h.missed

theorem handshakeOrder_of_undisturbed_polite :
    Along (systemStep workedEnv) (Undisturbed workedEnv) {} politeRun ∧
      HandshakeOrder (run (systemStep workedEnv) {} politeRun) 0 := by
  have hpolite : Along (systemStep workedEnv) (Undisturbed workedEnv) {} politeRun := by
    decide +kernel
  exact ⟨hpolite, handshakeOrder_of_undisturbed workedEnv politeRun hpolite 0⟩

end Tunnara.Agent
