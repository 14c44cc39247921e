/-
# The frames of a stream on their way to the agent

The handler that opens a stream awaits the route before it enters the stream, while later frames
of the edge and its close are handled at once. What comes in between finds no entry and is
dropped, and the entry is made after the close.
-/

import Tunnara.Relay.Bystanders
import Tunnara.Relay.Chunking
import Tunnara.Relay.Inactive

namespace Tunnara.Relay

open State Attempt Transition OrdMap

variable (env : Env)

/-! ## What an edge has sent -/

def framesOf (state : State) (edge : ℕ) : Event → List Json
  | .edgeData other chunk =>
    if other = edge then
      match state.edgeConns.get? edge with
      | none => []
      | some conn =>
        if conn.framed.destroyed then []
        else (drain env.codec (conn.framed.buffer ++ chunk)).1.filterMap Signal.value?
    else []
  | _ => []

/-- A Relay, and the frames it has read of one edge. -/
structure Watched where
  relay : State := initial
  heard : List Json := []

def watch (edge : ℕ) (watched : Watched) (event : Event) : Watched where
  relay := step env watched.relay event
  heard := watched.heard ++ framesOf env watched.relay edge event

/-- The frames open a stream, carry its data and close it, as far as they go. -/
structure Conversation (streamId : Json) (heard : List Json) (opening : Json)
    (data closing : List Json) : Prop where
  shape : heard = opening :: (data ++ closing)
  opens : hasType opening "stream_open" = true
  carries : ∀ frame ∈ data, hasType frame "stream_data" = true
  closes : ∀ frame ∈ closing, hasType frame "stream_close" = true
  named : ∀ frame ∈ heard, frame.get? "streamId" = some streamId

/-! ## What the agent is sent -/

/-- One agent connection was sent the frames of the stream, and no other was sent any. -/
def Carried (streamId : Json) (state : State) (connection : ℕ) (frames : List Json) : Prop :=
  Logged streamId (Function.update (fun _ => []) connection frames) state

/-- Nothing was forwarded and nothing is entered. -/
structure Unserved (streamId : Json) (state : State) : Prop where
  received : Logged streamId (fun _ => []) state
  streams : ∀ key, key.value = some streamId → state.streams.get? key = none

/-- The frame that ends the stream: the first `stream_close`, or the one for a closed edge. -/
def EndsWith (edge : ℕ) (streamId : Json) (state : State) (closing : List Json) (last : Json) :
    Prop :=
  closing.head? = some last ∨
    closing = [] ∧ state.EdgeGone edge ∧ last = streamCloseFrame (some streamId) "edge_closed"

/-- What has become of a stream. -/
inductive StreamOutcome (edge : ℕ) (streamId : Json) (state : State) (opening : Json)
    (data closing : List Json) : Prop
  /-- Its route is still awaited. -/
  | pending {id : ℕ} (hnothing : Unserved streamId state)
      (hlookup : state.lookups.get? id = some ⟨.streamOpen, edge, opening, id⟩)
  | refused {reason : String} (hnothing : Unserved streamId state)
      (htold : state.Informed edge (streamCloseFrame (some streamId) reason))
  | underway {connection : ℕ} {target : Target} {tunnel : Tunnel} (hclosing : closing = [])
      (hthere : ¬ state.EdgeGone edge)
      (hreceived : Carried streamId state connection (streamOpenFrame opening target tunnel :: data))
  | finished {connection : ℕ} {target : Target} {tunnel : Tunnel} {last : Json}
      (hlast : EndsWith edge streamId state closing last)
      (hreceived : Carried streamId state connection
        (streamOpenFrame opening target tunnel :: (data ++ [last])))
      (hstreams : ∀ key, key.value = some streamId → state.streams.get? key = none)

/-- The stream of the edge is forwarded whole and in order, or refused. -/
def Forwards (edge : ℕ) (streamId : Json) (watched : Watched) : Prop :=
  ∀ opening data closing, Conversation streamId watched.heard opening data closing →
    StreamOutcome edge streamId watched.relay opening data closing

/-! ## Runs that are not disturbed -/

/-- Something is still written to the agent connection. -/
def State.Writable (state : State) (connection : ℕ) : Prop :=
  ∃ agent, state.agentConns.get? connection = some agent ∧ agent.framed.silent = false ∧
    agent.framed.ended = false

/-- The connection that the stream was opened on is still the agent's. -/
structure Connected (state : State) (entry : Entry) : Prop where
  current : state.agents.get? entry.agentId = some entry.via
  writable : state.Writable entry.via

def OfEdge (edge : ℕ) (event : Event) : Prop :=
  (∃ chunk, event = .edgeData edge chunk) ∨ event = .edgeClose edge

/-- The step handles nothing of the edge before its route, and nobody else ends or uses
the stream. -/
structure Undisturbed (edge : ℕ) (streamId : Json) (watched : Watched) (event : Event) : Prop where
  named : truthy (some streamId) = true
  unshared : Unshared env edge streamId watched.relay event
  stays : ∀ key entry, key.value = some streamId →
    watched.relay.streams.get? key = some entry → AgentStays env watched.relay event streamId entry
  connected : OfEdge edge event → ∀ entry,
    watched.relay.streams.get? (watched.relay.streamIdOf edge) = some entry →
      Connected watched.relay entry
  /-- The route arrives before the next frame of the edge and before its close. -/
  inTime : ∀ lookup route tunnel target connection, Answers watched.relay event lookup route →
    lookup.kind = .streamOpen → lookup.edge = edge →
      connectedTarget watched.relay route = some (tunnel, target, connection) →
        watched.heard = [lookup.frame] ∧ ¬ watched.relay.EdgeGone edge ∧
          watched.relay.Writable connection

/-! ## The frames of a conversation -/

variable {env : Env} {edge : ℕ} {streamId opening frame : Json} {heard data closing : List Json}

theorem Conversation.ofStream (h : Conversation streamId heard opening data closing)
    (hmem : frame ∈ heard) : ofStream streamId frame = true := by
  have hid := h.named frame hmem
  unfold Relay.ofStream
  rw [h.shape, List.mem_cons, List.mem_append] at hmem
  rcases hmem with rfl | hdata | hclose
  · simp [h.opens, hid]
  · simp [h.carries frame hdata, hid]
  · simp [h.closes frame hclose, hid]

theorem Conversation.ne_nil (h : Conversation streamId heard opening data closing) :
    heard ≠ [] := by
  rw [h.shape]
  exact List.cons_ne_nil _ _

theorem Conversation.first (h : Conversation streamId [frame] opening data closing) :
    opening = frame ∧ data = [] ∧ closing = [] := by
  obtain ⟨hopening, hrest⟩ := List.cons.inj h.shape
  obtain ⟨hdata, hclosing⟩ := List.append_eq_nil_iff.1 hrest.symm
  exact ⟨hopening.symm, hdata, hclosing⟩

theorem Conversation.later (h : Conversation streamId (heard ++ [frame]) opening data closing)
    (hheard : heard ≠ []) :
    (closing = [] ∧ hasType frame "stream_data" = true ∧ ∃ before, data = before ++ [frame] ∧
        Conversation streamId heard opening before []) ∨
      (hasType frame "stream_close" = true ∧ ∃ before, closing = before ++ [frame] ∧
        Conversation streamId heard opening data before) := by
  have hnamed : ∀ other ∈ heard, other.get? "streamId" = some streamId :=
    fun other hother => h.named other (List.mem_append_left _ hother)
  have hshape := h.shape
  rcases List.eq_nil_or_concat closing with rfl | ⟨before, last, rfl⟩
  · left
    rcases List.eq_nil_or_concat data with rfl | ⟨before, last, rfl⟩
    · have hone : heard ++ [frame] = [] ++ [opening] := hshape
      exact absurd (List.append_inj' hone rfl).1 hheard
    · have hsplit : heard ++ [frame] = (opening :: before) ++ [last] := by
        rw [hshape]
        simp
      obtain ⟨hbefore, hlast⟩ := List.append_inj' hsplit rfl
      cases hlast
      have hmem : frame ∈ before.concat frame := by simp
      refine ⟨rfl, h.carries frame hmem, before, List.concat_eq_append, ?_⟩
      refine ⟨by rw [hbefore, List.append_nil], h.opens, fun other hother => ?_, nofun, hnamed⟩
      exact h.carries other (by simp [hother])
  · right
    have hsplit : heard ++ [frame] = (opening :: (data ++ before)) ++ [last] := by
      rw [hshape]
      simp
    obtain ⟨hbefore, hlast⟩ := List.append_inj' hsplit rfl
    cases hlast
    have hmem : frame ∈ before.concat frame := by simp
    refine ⟨h.closes frame hmem, before, List.concat_eq_append, ?_⟩
    refine ⟨hbefore, h.opens, h.carries, fun other hother => ?_, hnamed⟩
    exact h.closes other (by simp [hother])

theorem Conversation.initial {rest : List Json}
    (h : Conversation streamId (heard ++ rest) opening data closing) (hheard : heard ≠ []) :
    ∃ before ended, Conversation streamId heard opening before ended := by
  induction rest using List.reverseRecOn generalizing data closing with
  | nil =>
    rw [List.append_nil] at h
    exact ⟨data, closing, h⟩
  | append_singleton rest frame ih =>
    rw [← List.append_assoc] at h
    have hlonger : heard ++ rest ≠ [] := fun hnil => hheard (List.append_eq_nil_iff.1 hnil).1
    rcases h.later hlonger with ⟨-, -, before, -, hbefore⟩ | ⟨-, before, -, hbefore⟩
    · exact ih hbefore
    · exact ih hbefore

/-! ## The stages of a stream -/

/-- No stream of the edge awaits its route. -/
def NotAsking (edge : ℕ) (state : State) : Prop :=
  ∀ id lookup, lookup.kind = .streamOpen → lookup.edge = edge → state.lookups.get? id ≠ some lookup

/-- The one stream of the edge awaits its route. -/
structure Asking (edge : ℕ) (streamId : Json) (opening : Json) (id : ℕ) (state : State) :
    Prop where
  lookup : state.lookups.get? id = some ⟨.streamOpen, edge, opening, id⟩
  only : ∀ other lookup, lookup.kind = .streamOpen → lookup.edge = edge →
    state.lookups.get? other = some lookup → other = id
  current : state.streamIdOf edge = Key.of id (some streamId)

structure Entered (edge : ℕ) (streamId : Json) (entry : Entry) (state : State) : Prop where
  entry : state.streams.get? (state.streamIdOf edge) = some entry
  only : ∀ key, key.value = some streamId → key ≠ state.streamIdOf edge →
    state.streams.get? key = none

/-- How far a stream has come, and what the Relay holds of it. -/
inductive Stage (edge : ℕ) (streamId : Json) (opening : Json) (data closing : List Json)
    (state : State) : Prop
  | asking {id : ℕ} (hasking : Asking edge streamId opening id state)
      (hnothing : Unserved streamId state)
  | refused {reason : String} (hquiet : NotAsking edge state) (hnothing : Unserved streamId state)
      (htold : state.Informed edge (streamCloseFrame (some streamId) reason))
  | running {entry : Entry} {target : Target} {tunnel : Tunnel} (hquiet : NotAsking edge state)
      (hentered : Entered edge streamId entry state) (hclosing : closing = [])
      (hthere : ¬ state.EdgeGone edge)
      (hreceived : Carried streamId state entry.via (streamOpenFrame opening target tunnel :: data))
  | closed {connection : ℕ} {target : Target} {tunnel : Tunnel} {last : Json}
      (hquiet : NotAsking edge state) (hlast : EndsWith edge streamId state closing last)
      (hreceived : Carried streamId state connection
        (streamOpenFrame opening target tunnel :: (data ++ [last])))
      (hstreams : ∀ key, key.value = some streamId → state.streams.get? key = none)

/-- What the Relay holds of the stream fits what it has read of the edge. -/
structure Tracks (edge : ℕ) (streamId : Json) (heard : List Json) (state : State) : Prop where
  before : heard = [] → Unserved streamId state ∧ NotAsking edge state ∧
    (state.streamIdOf edge).value = some .null
  after : ∀ opening data closing, Conversation streamId heard opening data closing →
    (state.streamIdOf edge).value = some streamId ∧ Stage edge streamId opening data closing state

variable {state : State}

theorem Stage.outcome (h : Stage edge streamId opening data closing state) :
    StreamOutcome edge streamId state opening data closing := by
  cases h with
  | asking hasking hnothing => exact .pending hnothing hasking.lookup
  | refused _ hnothing htold => exact .refused hnothing htold
  | running _ _ hclosing hthere hreceived => exact .underway hclosing hthere hreceived
  | closed _ hlast hreceived hstreams => exact .finished hlast hreceived hstreams

theorem tracks_initial : Tracks edge streamId [] initial where
  before _ := ⟨⟨fun _ => rfl, fun _ _ => rfl⟩, fun _ _ _ _ => nofun, rfl⟩
  after _ _ _ h := absurd rfl h.ne_nil

theorem tracks_of_not_conversation (hheard : heard ≠ [])
    (h : ∀ opening data closing, ¬ Conversation streamId heard opening data closing) :
    Tracks edge streamId heard state where
  before hnil := absurd hnil hheard
  after opening data closing hconversation := absurd hconversation (h opening data closing)

/-! ## Events that leave the stream alone -/

variable {connection : ℕ} {agent : AgentConnection} {entry : Entry} {conn : EdgeConnection}
  {event : Event}

section Same

variable {next : State} (hview : SameView edge streamId state next)
  (hwritten : ∀ connection, next.received connection streamId = state.received connection streamId)

include hview

theorem NotAsking.same (h : NotAsking edge state) : NotAsking edge next := by
  intro id lookup hkind hedge hlookup
  exact h id lookup hkind hedge ((hview.lookups id lookup hkind hedge).1 hlookup)

include hwritten

theorem Unserved.same (h : Unserved streamId state) : Unserved streamId next where
  received connection := (hwritten connection).trans (h.received connection)
  streams key hkey := (hview.streams key hkey).trans (h.streams key hkey)

omit hview in
theorem Carried.same {frames : List Json} (h : Carried streamId state connection frames) :
    Carried streamId next connection frames :=
  fun other => (hwritten other).trans (h other)

theorem Stage.same (h : Stage edge streamId opening data closing state)
    (hcurrent : (state.streamIdOf edge).value = some streamId) :
    Stage edge streamId opening data closing next := by
  cases h with
  | asking hasking hnothing =>
    refine .asking ⟨?_, ?_, hview.current.trans hasking.current⟩ (hnothing.same hview hwritten)
    · exact (hview.lookups _ _ rfl rfl).2 hasking.lookup
    · intro other lookup hkind hedge hlookup
      exact hasking.only other lookup hkind hedge
        ((hview.lookups other lookup hkind hedge).1 hlookup)
  | refused hquiet hnothing htold =>
    exact .refused (hquiet.same hview) (hnothing.same hview hwritten) (hview.informed _ htold)
  | running hquiet hentered hclosing hthere hreceived =>
    refine .running (hquiet.same hview) ⟨?_, ?_⟩ hclosing (fun h => hthere (hview.gone.1 h))
      (hreceived.same hwritten)
    · rw [hview.current, hview.streams _ hcurrent]
      exact hentered.entry
    · intro key hkey hne
      rw [hview.current] at hne
      exact (hview.streams key hkey).trans (hentered.only key hkey hne)
  | closed hquiet hlast hreceived hstreams =>
    refine .closed (hquiet.same hview) (hlast.imp id ?_) (hreceived.same hwritten) ?_
    · exact fun hgone => ⟨hgone.1, hview.gone.2 hgone.2.1, hgone.2.2⟩
    · exact fun key hkey => (hview.streams key hkey).trans (hstreams key hkey)

theorem Tracks.same (h : Tracks edge streamId heard state) : Tracks edge streamId heard next where
  before hnil := by
    obtain ⟨hnothing, hquiet, hcurrent⟩ := h.before hnil
    exact ⟨hnothing.same hview hwritten, hquiet.same hview, hview.current ▸ hcurrent⟩
  after opening data closing hconversation := by
    obtain ⟨hcurrent, hstage⟩ := h.after opening data closing hconversation
    exact ⟨hview.current ▸ hcurrent, hstage.same hview hwritten hcurrent⟩

end Same

/-! ## What is handed to the agent -/

/-- The agent connection after a frame was written to it. -/
def State.handed (state : State) (connection : ℕ) (agent : AgentConnection) (payload : Json) :
    State :=
  state.putAgent connection { agent with framed.sent := agent.framed.sent ++ [payload] }

theorem Carried.handed {frames : List Json} {payload : Json}
    (h : Carried streamId state connection frames)
    (hagent : state.agentConns.get? connection = some agent)
    (hpayload : ofStream streamId payload = true) :
    Carried streamId (state.handed connection agent payload) connection (frames ++ [payload]) := by
  have hbefore : agent.framed.sent.filter (ofStream streamId) = frames := by
    rw [Logged.of_get? h hagent, Function.update_self]
  intro other
  unfold received State.handed putAgent
  by_cases heq : other = connection
  · subst heq
    rw [get?_set_self, Function.update_self]
    change (agent.framed.sent ++ [payload]).filter (ofStream streamId) = _
    rw [List.filter_append, hbefore]
    simp [hpayload]
  · rw [get?_set_of_ne _ heq, Function.update_of_ne heq]
    exact (h other).trans (Function.update_of_ne heq ..)

theorem Logged.handed {payload : Json} (h : Logged streamId (fun _ => []) state)
    (hagent : state.agentConns.get? connection = some agent)
    (hpayload : ofStream streamId payload = true) :
    Carried streamId (state.handed connection agent payload) connection [payload] := by
  have hnone : Carried streamId state connection [] := by
    unfold Carried
    rw [Function.update_eq_self_iff.2 rfl]
    exact h
  exact hnone.handed hagent hpayload

theorem exec_sendAgent_writable {connection : ℕ} {agent : AgentConnection}
    (hagent : state.agentConns.get? connection = some agent)
    (hsilent : agent.framed.silent = false) (hended : agent.framed.ended = false) {payload : Json} :
    (∃ error, exec (sendAgent env connection payload) state = (.error error, state)) ∨
      exec (sendAgent env connection payload) state =
        (.ok ⟨⟩, state.handed connection agent payload) := by
  rw [exec_sendAgent, hagent]
  dsimp only
  cases hsend : agent.framed.send env.codec payload with
  | error error => exact .inl ⟨error, rfl⟩
  | ok effect =>
    have hfits := FramedConnection.fits_of_send hsend hsilent
    rw [FramedConnection.send_of_fits hsilent hended hfits] at hsend
    cases hsend
    exact .inr rfl

theorem exec_forward_connected {entry : Entry} (h : Connected state entry) (payload : Json) :
    ∃ agent, state.agentConns.get? entry.via = some agent ∧
      ((∃ error, exec (forward env (some entry) payload) state = (.error error, state)) ∨
        exec (forward env (some entry) payload) state =
          (.ok ⟨⟩, state.handed entry.via agent payload)) := by
  obtain ⟨agent, hagent, hsilent, hended⟩ := h.writable
  refine ⟨agent, hagent, ?_⟩
  rw [forward, sendToAgent, exec_bind, exec_get]
  dsimp only
  rw [h.current]
  exact exec_sendAgent_writable hagent hsilent hended

/-! ## The frames of the edge -/

theorem ne_null_of_type {type : String} (h : hasType frame type = true) : frame ≠ .null := by
  rintro rfl
  simp [hasType, Json.get?, text] at h

theorem exec_onEdgeFrame_opening (h : hasType frame "stream_open" = true) (state : State) :
    exec (onEdgeFrame env edge frame) state = (.ok ⟨⟩, (state.setStreamId edge
      (Key.of state.clock (frame.get? "streamId"))).awaitRoute .streamOpen edge frame) := by
  have hrequest := hasType_other h "proxy_request" (by decide)
  rw [onEdgeFrame_of_ne_null env (ne_null_of_type h), dispatchEdgeFrame, exec_bind, exec_get]
  simp only [hrequest, h, Bool.false_eq_true, if_false, if_true, exec_modify]

/-- The type of a frame that belongs to an open stream. -/
def Belongs (frame : Json) : Prop :=
  hasType frame "stream_data" = true ∨ hasType frame "stream_close" = true

section

variable (h : Belongs frame)
include h

theorem Belongs.ne_null : frame ≠ .null :=
  h.elim ne_null_of_type ne_null_of_type

theorem Belongs.other {type : String} (hdata : type ≠ "stream_data")
    (hclose : type ≠ "stream_close") : hasType frame type = false :=
  h.elim (fun h => hasType_other h type hdata) fun h => hasType_other h type hclose

section

variable (htruthy : truthy (state.streamIdOf edge).value = true)
include htruthy

theorem exec_onEdgeFrame_stream :
    exec (onEdgeFrame env edge frame) state =
      exec (onEdgeStream env (state.streamIdOf edge) frame) state := by
  have hopen : hasType frame "stream_open" = false := h.other (by decide) (by decide)
  have hrequest : hasType frame "proxy_request" = false := h.other (by decide) (by decide)
  have hdatagram : hasType frame "udp_datagram" = false := h.other (by decide) (by decide)
  have hprobe : hasType frame "health_probe" = false := h.other (by decide) (by decide)
  have hudp : hasType frame "udp_close" = false := h.other (by decide) (by decide)
  have hstream : ((hasType frame "stream_data" || hasType frame "stream_close") &&
      truthy (state.streamIdOf edge).value) = true := by
    rcases h with h | h <;> simp [h, htruthy]
  rw [onEdgeFrame_of_ne_null env h.ne_null, dispatchEdgeFrame, exec_bind, exec_get]
  simp only [hopen, hrequest, hdatagram, hprobe, hudp, hstream, Bool.false_eq_true, if_false,
    if_true]

theorem edgeSignal_of_none (hnone : state.streams.get? (state.streamIdOf edge) = none) :
    edgeSignal env edge state (.frame frame) = state.tick := by
  have hexec : exec (onEdgeFrame env edge frame) state.tick = (.ok ⟨⟩, state.tick) := by
    have hnoneTick : state.tick.streams.get? (state.tick.streamIdOf edge) = none := hnone
    have htruthyTick : truthy (state.tick.streamIdOf edge).value = true := htruthy
    rw [exec_onEdgeFrame_stream h htruthyTick, onEdgeStream, exec_bind, exec_get]
    dsimp only
    rw [hnoneTick, forward, exec_bind, exec_pure]
    dsimp only
    rw [exec_modify, dropStream_of_none hnoneTick, ite_self]
  unfold edgeSignal frameListener
  dsimp only
  rw [hexec]

theorem edgeSignal_of_connected (hentry : state.streams.get? (state.streamIdOf edge) = some entry)
    (hconnected : Connected state entry)
    (hopen : ∃ conn, state.edgeConns.get? edge = some conn ∧ conn.framed.destroyed = false)
    (halive : ¬ (edgeSignal env edge state (.frame frame)).Crashed) :
    ∃ agent, state.agentConns.get? entry.via = some agent ∧
      edgeSignal env edge state (.frame frame) =
        if hasType frame "stream_close" = true then
          (state.tick.handed entry.via agent frame).dropStream (state.streamIdOf edge)
        else state.tick.handed entry.via agent frame := by
  have htick : Connected state.tick entry := ⟨hconnected.current, hconnected.writable⟩
  have hentryTick : state.tick.streams.get? (state.tick.streamIdOf edge) = some entry := hentry
  have htruthyTick : truthy (state.tick.streamIdOf edge).value = true := htruthy
  obtain ⟨agent, hagent, hforward⟩ := @exec_forward_connected env _ _ htick frame
  refine ⟨agent, hagent, ?_⟩
  unfold edgeSignal frameListener at halive ⊢
  dsimp only at halive ⊢
  rw [exec_onEdgeFrame_stream h htruthyTick, onEdgeStream, exec_bind, exec_get] at halive ⊢
  dsimp only at halive ⊢
  rw [hentryTick, exec_bind] at halive ⊢
  rcases hforward with ⟨error, hforward⟩ | hforward
  · rw [hforward] at halive
    rw [crashed_destroyEdge, not_or, not_not] at halive
    obtain ⟨conn, hconn, hthere⟩ := hopen
    have hframed : state.tick.edgeFramed edge = some conn.framed := congrArg _ hconn
    rw [halive.2 conn.framed hframed] at hthere
    cases hthere
  · rw [hforward]
    rfl

end

end

/-- What holds between two frames of a chunk. -/
structure Serves (edge : ℕ) (streamId : Json) (heard : List Json) (state : State) : Prop where
  tracks : Tracks edge streamId heard state
  ready : ∃ conn, state.edgeConns.get? edge = some conn ∧ conn.framed.destroyed = false ∧
    conn.gone = false
  connected : ∀ entry, state.streams.get? (state.streamIdOf edge) = some entry →
    Connected state entry

theorem sameView_tick : SameView edge streamId state state.tick :=
  ⟨rfl, fun _ _ _ _ => Iff.rfl, fun _ _ => rfl, Iff.rfl, fun _ => id⟩

theorem not_edgeGone_of_ready {state : State} (h : ∃ conn, state.edgeConns.get? edge = some conn ∧
    conn.framed.destroyed = false ∧ conn.gone = false) : ¬ state.EdgeGone edge := by
  rintro ⟨other, hother, hgone⟩
  obtain ⟨conn, hconn, -, hthere⟩ := h
  rw [hconn] at hother
  cases hother
  rw [hthere] at hgone
  cases hgone

theorem Conversation.belongs (h : Conversation streamId (heard ++ [frame]) opening data closing)
    (hheard : heard ≠ []) : Belongs frame :=
  (h.later hheard).imp (fun hdata => hdata.2.1) fun hclose => hclose.1

theorem Stage.dropped {state : State} (hheard : heard ≠ [])
    (hnone : state.streams.get? (state.streamIdOf edge) = none) (hthere : ¬ state.EdgeGone edge)
    (hstage : ∀ before ended, Conversation streamId heard opening before ended →
      Stage edge streamId opening before ended state)
    (h : Conversation streamId (heard ++ [frame]) opening data closing) :
    Stage edge streamId opening data closing state := by
  rcases h.later hheard with ⟨rfl, -, before, rfl, hbefore⟩ | ⟨-, before, rfl, hbefore⟩
  · cases hstage before [] hbefore with
    | asking hasking hnothing => exact .asking hasking hnothing
    | refused hquiet hnothing htold => exact .refused hquiet hnothing htold
    | running _ hentered =>
      rw [hentered.entry] at hnone
      cases hnone
    | closed _ hlast =>
      rcases hlast with hlast | ⟨-, hgone, -⟩
      · cases hlast
      · exact absurd hgone hthere
  · cases hstage data before hbefore with
    | asking hasking hnothing => exact .asking hasking hnothing
    | refused hquiet hnothing htold => exact .refused hquiet hnothing htold
    | running _ hentered =>
      rw [hentered.entry] at hnone
      cases hnone
    | closed hquiet hlast hreceived hstreams =>
      rcases hlast with hlast | ⟨-, hgone, -⟩
      · refine .closed hquiet (.inl ?_) hreceived hstreams
        rw [List.head?_append, hlast, Option.some_or]
      · exact absurd hgone hthere

theorem Stage.forwarded {state : State} (hheard : heard ≠ [])
    (hentry : state.streams.get? (state.streamIdOf edge) = some entry)
    (hcurrent : (state.streamIdOf edge).value = some streamId)
    (hagent : state.agentConns.get? entry.via = some agent)
    (hstage : ∀ before ended, Conversation streamId heard opening before ended →
      Stage edge streamId opening before ended state)
    (h : Conversation streamId (heard ++ [frame]) opening data closing) :
    Stage edge streamId opening data closing
      (if hasType frame "stream_close" = true then
        (state.handed entry.via agent frame).dropStream (state.streamIdOf edge)
      else state.handed entry.via agent frame) := by
  have hframe : ofStream streamId frame = true := h.ofStream (by simp)
  have hentered : ∀ before ended, Conversation streamId heard opening before ended →
      ended = [] ∧ NotAsking edge state ∧ Entered edge streamId entry state ∧
        ¬ state.EdgeGone edge ∧ ∃ target tunnel, Carried streamId state entry.via
          (streamOpenFrame opening target tunnel :: before) := by
    intro before ended hbefore
    cases hstage before ended hbefore with
    | asking _ hnothing | refused _ hnothing =>
      rw [hnothing.streams _ hcurrent] at hentry
      cases hentry
    | running hquiet hfound hclosing hthere hreceived =>
      have hsame := hfound.entry
      rw [hentry] at hsame
      cases hsame
      exact ⟨hclosing, hquiet, hfound, hthere, _, _, hreceived⟩
    | closed _ _ _ hstreams =>
      rw [hstreams _ hcurrent] at hentry
      cases hentry
  rcases h.later hheard with ⟨rfl, hdata, before, rfl, hbefore⟩ | ⟨hclose, before, rfl, hbefore⟩
  · obtain ⟨-, hquiet, hfound, hthere, target, tunnel, hreceived⟩ := hentered before [] hbefore
    rw [if_neg (by simp [hasType_other hdata "stream_close" (by decide)])]
    exact .running hquiet ⟨hfound.entry, hfound.only⟩ rfl hthere (hreceived.handed hagent hframe)
  · obtain ⟨rfl, hquiet, hfound, -, target, tunnel, hreceived⟩ := hentered data before hbefore
    rw [if_pos hclose]
    refine .closed hquiet (.inl rfl) (hreceived.handed hagent hframe) ?_
    intro key hkey
    by_cases heq : key = state.streamIdOf edge
    · rw [heq]
      exact get?_erase_self _ _
    · exact (get?_erase_of_ne _ heq).trans (hfound.only key hkey heq)

theorem serves_opening (h : Serves edge streamId [] state)
    (hopens : hasType frame "stream_open" = true) (hnamed : frame.get? "streamId" = some streamId) :
    Serves edge streamId [frame] (edgeSignal env edge state (.frame frame)) := by
  obtain ⟨hnothing, hquiet, -⟩ := h.tracks.before rfl
  obtain ⟨conn, hconn, hopen, hthere⟩ := h.ready
  have hnext : edgeSignal env edge state (.frame frame) = (state.tick.setStreamId edge
      (Key.of state.tick.clock (some streamId))).awaitRoute .streamOpen edge frame := by
    unfold edgeSignal frameListener
    dsimp only
    rw [exec_onEdgeFrame_opening hopens, hnamed]
  rw [hnext]
  generalize hlater : (state.tick.setStreamId edge
    (Key.of state.tick.clock (some streamId))).awaitRoute .streamOpen edge frame = next
  have hedge : next.edgeConns.get? edge =
      some { conn with streamId := Key.of state.tick.clock (some streamId) } := by
    rw [← hlater]
    change (state.edgeConns.update edge _).get? edge = _
    rw [get?_update_self, hconn, Option.map_some]
  have hcurrent : next.streamIdOf edge = Key.of state.tick.clock (some streamId) := by
    unfold State.streamIdOf
    rw [hedge]
  have hstreams : next.streams = state.streams := by
    rw [← hlater]
    rfl
  have hlookups : next.lookups = state.lookups.set state.tick.clock
      ⟨.streamOpen, edge, frame, state.tick.clock⟩ := by
    rw [← hlater]
    rfl
  have hunserved : Unserved streamId next := by
    refine ⟨hnothing.received.congr ?_, ?_⟩
    · rw [← hlater]
      rfl
    · rw [hstreams]
      exact hnothing.streams
  have hasking : Asking edge streamId frame state.tick.clock next := by
    refine ⟨?_, ?_, hcurrent⟩
    · rw [hlookups]
      exact get?_set_self _ _ _
    · intro other lookup hkind hedge hlookup
      by_contra hne
      rw [hlookups, get?_set_of_ne _ hne] at hlookup
      exact hquiet other lookup hkind hedge hlookup
  refine ⟨⟨fun hnil => absurd hnil (List.cons_ne_nil _ _), ?_⟩, ⟨_, hedge, hopen, hthere⟩, ?_⟩
  · intro opening data closing hconversation
    obtain ⟨rfl, rfl, rfl⟩ := hconversation.first
    exact ⟨by rw [hcurrent, value_keyOf], .asking hasking hunserved⟩
  · intro entry hentry
    rw [hunserved.streams _ (by rw [hcurrent, value_keyOf])] at hentry
    cases hentry

theorem serves_later (h : Serves edge streamId heard state)
    (htruthy : truthy (some streamId) = true) (hheard : heard ≠ [])
    (hconversation : Conversation streamId (heard ++ [frame]) opening data closing)
    (halive : ¬ (edgeSignal env edge state (.frame frame)).Crashed) :
    Serves edge streamId (heard ++ [frame]) (edgeSignal env edge state (.frame frame)) := by
  have hbelongs := hconversation.belongs hheard
  obtain ⟨before, ended, hbefore⟩ := hconversation.initial hheard
  have hcurrent : (state.tick.streamIdOf edge).value = some streamId :=
    (h.tracks.after opening before ended hbefore).1
  have hkey : truthy (state.streamIdOf edge).value = true := by
    rw [show (state.streamIdOf edge).value = some streamId from hcurrent]
    exact htruthy
  have htracks : Tracks edge streamId heard state.tick :=
    h.tracks.same sameView_tick fun _ => rfl
  have hthere : ¬ state.tick.EdgeGone edge := not_edgeGone_of_ready h.ready
  have hlonger : heard ++ [frame] ≠ [] := by simp
  cases hentry : state.streams.get? (state.streamIdOf edge) with
  | none =>
    rw [edgeSignal_of_none hbelongs hkey hentry]
    refine ⟨⟨fun hnil => absurd hnil hlonger, ?_⟩, h.ready, ?_⟩
    · intro opening data closing hconversation
      exact ⟨hcurrent, Stage.dropped hheard hentry hthere
        (fun before ended hbefore => (htracks.after _ before ended hbefore).2) hconversation⟩
    · intro entry hfound
      rw [show state.tick.streams.get? (state.tick.streamIdOf edge) = none from hentry] at hfound
      cases hfound
  | some entry =>
    obtain ⟨conn, hconn, hopen, hnotGone⟩ := h.ready
    have hconnected := h.connected entry hentry
    obtain ⟨agent, hagent, hnext⟩ :=
      edgeSignal_of_connected hbelongs hkey hentry hconnected ⟨conn, hconn, hopen⟩ halive
    rw [hnext]
    refine ⟨⟨fun hnil => absurd hnil hlonger, ?_⟩, ⟨conn, ?_, hopen, hnotGone⟩, ?_⟩
    · intro opening data closing hconversation
      refine ⟨?_, Stage.forwarded hheard hentry hcurrent hagent
        (fun before ended hbefore => (htracks.after _ before ended hbefore).2) hconversation⟩
      split <;> exact hcurrent
    · split <;> exact hconn
    · intro found hfound
      split at hfound
      · have hgone := get?_erase_self state.streams (state.streamIdOf edge)
        have hboth : none = some found := hgone.symm.trans hfound
        cases hboth
      · have hsame : some entry = some found := hentry.symm.trans hfound
        cases hsame
        rename_i hclose
        rw [if_neg hclose]
        obtain ⟨written, hwritten, hsilent, hended⟩ := hconnected.writable
        rw [hagent] at hwritten
        cases hwritten
        exact ⟨hconnected.current, _, get?_set_self _ _ _, hsilent, hended⟩

theorem tracks_edgeSignals {signals : List Signal} (h : Serves edge streamId heard state)
    (htruthy : truthy (some streamId) = true)
    (halive : ¬ (run (edgeSignal env edge) state signals).Crashed) :
    Tracks edge streamId (heard ++ signals.filterMap Signal.value?)
      (run (edgeSignal env edge) state signals) := by
  induction signals generalizing heard state with
  | nil =>
    rw [List.filterMap_nil, List.append_nil]
    exact h.tracks
  | cons signal rest ih =>
    have hfirst : ¬ (edgeSignal env edge state signal).Crashed := by
      intro hcrashed
      apply halive
      exact fault_run (fun state signal hcrashed =>
        (crashed_edgeSignal env edge state signal).2 (.inl hcrashed)) hcrashed rest
    have hdestroyed : ¬ (state.tick.destroyEdge edge).Crashed →
        Tracks edge streamId (heard ++ (signal :: rest).filterMap Signal.value?)
          (run (edgeSignal env edge) state (signal :: rest)) := by
      intro hthere
      obtain ⟨conn, hconn, hopen, -⟩ := h.ready
      rw [crashed_destroyEdge, not_or, not_not] at hthere
      have hframed : state.tick.edgeFramed edge = some conn.framed := congrArg _ hconn
      rw [hthere.2 conn.framed hframed] at hopen
      cases hopen
    cases signal with
    | invalidLength | malformed => exact hdestroyed hfirst
    | frame value =>
      have hsplit : heard ++ (Signal.frame value :: rest).filterMap Signal.value? =
          (heard ++ [value]) ++ rest.filterMap Signal.value? := by
        simp [Signal.value?]
      rw [hsplit]
      by_cases hconversation : ∃ opening data closing,
          Conversation streamId (heard ++ [value]) opening data closing
      · obtain ⟨opening, data, closing, hconversation⟩ := hconversation
        apply ih _ halive
        by_cases hheard : heard = []
        · subst hheard
          have hmem : value ∈ [] ++ [value] := by simp
          have hopens := hconversation.opens
          rw [(Conversation.first hconversation).1] at hopens
          exact serves_opening h hopens (hconversation.named value hmem)
        · exact serves_later h htruthy hheard hconversation hfirst
      · apply tracks_of_not_conversation (by simp)
        intro opening data closing hlonger
        obtain ⟨before, ended, hbefore⟩ := hlonger.initial (by simp)
        exact hconversation ⟨opening, before, ended, hbefore⟩

theorem sameView_modifyEdge {f : EdgeConnection → EdgeConnection}
    (hid : ∀ conn, (f conn).streamId = conn.streamId) (hgone : ∀ conn, (f conn).gone = conn.gone)
    (hsent : ∀ conn, (f conn).framed.sent = conn.framed.sent)
    (hsilent : ∀ conn, (f conn).framed.silent = conn.framed.silent) :
    SameView edge streamId state (state.modifyEdge edge f) := by
  have hedge : (state.modifyEdge edge f).edgeConns.get? edge =
      (state.edgeConns.get? edge).map f := get?_update_self _ _ _
  refine ⟨?_, fun _ _ _ _ => Iff.rfl, fun _ _ => rfl, ?_, ?_⟩
  · unfold State.streamIdOf
    rw [hedge]
    cases state.edgeConns.get? edge with
    | none => rfl
    | some conn => exact hid conn
  · unfold EdgeGone
    rw [hedge]
    cases state.edgeConns.get? edge with
    | none => simp
    | some conn => simp [hgone]
  · rintro payload ⟨conn, hconn, htold⟩
    refine ⟨f conn, by rw [hedge, hconn, Option.map_some], ?_⟩
    rwa [hsent, hsilent]

theorem tracks_edgeData {state : State} {chunk : List UInt8}
    (h : Tracks edge streamId heard state) (htruthy : truthy (some streamId) = true)
    (hclosed : ∀ conn, state.edgeConns.get? edge = some conn → conn.gone = true →
      conn.framed.destroyed = true)
    (hconnected : ∀ entry, state.streams.get? (state.streamIdOf edge) = some entry →
      Connected state entry)
    (hrunning : ¬ state.Crashed) (halive : ¬ (step env state (.edgeData edge chunk)).Crashed) :
    Tracks edge streamId (heard ++ framesOf env state edge (.edgeData edge chunk))
      (step env state (.edgeData edge chunk)) := by
  have htick : Tracks edge streamId heard state.tick :=
    h.same sameView_tick fun _ => rfl
  have hstep : step env state (.edgeData edge chunk) =
      withEdge state.tick edge (fun conn => !conn.framed.destroyed) fun conn =>
        run (edgeSignal env edge)
          (state.tick.keepEdgeBytes edge (drain env.codec (conn.framed.buffer ++ chunk)).2)
          (drain env.codec (conn.framed.buffer ++ chunk)).1 := by
    rw [step, if_neg hrunning]
    rfl
  rw [hstep, withEdge, show state.tick.edgeConns = state.edgeConns from rfl] at halive ⊢
  rw [framesOf, if_pos rfl]
  cases hconn : state.edgeConns.get? edge with
  | none =>
    rw [List.append_nil]
    exact htick
  | some conn =>
    rw [hconn] at halive
    dsimp only at halive ⊢
    cases hdestroyed : conn.framed.destroyed with
    | true =>
      rw [if_pos rfl, if_neg (by simp), List.append_nil]
      exact htick
    | false =>
      rw [hdestroyed, if_pos (by simp)] at halive
      rw [if_neg (by simp), if_pos (by simp)]
      have hview : SameView edge streamId state.tick (state.tick.keepEdgeBytes edge
          (drain env.codec (conn.framed.buffer ++ chunk)).2) :=
        sameView_modifyEdge (fun _ => rfl) (fun _ => rfl) (fun _ => rfl) fun _ => rfl
      refine tracks_edgeSignals ⟨htick.same hview fun _ => rfl, ?_, ?_⟩ htruthy halive
      · have hkept : (state.tick.keepEdgeBytes edge
            (drain env.codec (conn.framed.buffer ++ chunk)).2).edgeConns.get? edge =
            (state.edgeConns.get? edge).map _ := get?_update_self _ _ _
        rw [hconn, Option.map_some] at hkept
        refine ⟨_, hkept, hdestroyed, ?_⟩
        cases hgone : conn.gone with
        | false => rfl
        | true =>
          rw [hclosed conn hconn hgone] at hdestroyed
          cases hdestroyed
      · intro entry hentry
        rw [hview.current] at hentry
        have hkept := hconnected entry hentry
        exact ⟨hkept.current, hkept.writable⟩

/-! ## The close of the edge -/

theorem get?_endEdge {conn : EdgeConnection} (hconn : state.edgeConns.get? edge = some conn) :
    (state.endEdge edge).edgeConns.get? edge = some { conn with
      gone := true, framed.closed := true, framed.destroyed := true } := by
  have hended : (state.endEdge edge).edgeConns.get? edge =
      (state.edgeConns.get? edge).map _ := get?_update_self _ _ _
  rw [hconn] at hended
  exact hended

theorem streamIdOf_endEdge {conn : EdgeConnection} (hconn : state.edgeConns.get? edge = some conn) :
    (state.endEdge edge).streamIdOf edge = state.streamIdOf edge := by
  unfold State.streamIdOf
  rw [get?_endEdge hconn, hconn]

theorem Stage.ended (h : Stage edge streamId opening data closing state)
    (hconn : state.edgeConns.get? edge = some conn)
    (hnone : state.streams.get? (state.streamIdOf edge) = none) :
    Stage edge streamId opening data closing (state.endEdge edge) := by
  cases h with
  | asking hasking hnothing =>
    exact .asking ⟨hasking.lookup, hasking.only, (streamIdOf_endEdge hconn).trans hasking.current⟩
      ⟨hnothing.received, hnothing.streams⟩
  | @refused reason hquiet hnothing _ =>
    have htold : (state.endEdge edge).Informed edge
        (streamCloseFrame (some streamId) reason) := ⟨_, get?_endEdge hconn, .inr rfl⟩
    exact .refused hquiet ⟨hnothing.received, hnothing.streams⟩ htold
  | running _ hentered =>
    rw [hentered.entry] at hnone
    cases hnone
  | closed hquiet hlast hreceived hstreams =>
    refine .closed hquiet (hlast.imp id fun hgone => ⟨hgone.1, ?_, hgone.2.2⟩) hreceived hstreams
    exact ⟨_, get?_endEdge hconn, rfl⟩

theorem Stage.endedForwarded (h : Stage edge streamId opening data closing state)
    (hconn : state.edgeConns.get? edge = some conn)
    (hcurrent : (state.streamIdOf edge).value = some streamId)
    (hentry : state.streams.get? (state.streamIdOf edge) = some entry)
    (hagent : state.agentConns.get? entry.via = some agent) :
    Stage edge streamId opening data closing
      (((state.handed entry.via agent (streamCloseFrame (some streamId) "edge_closed")).endEdge
        edge).dropStream (state.streamIdOf edge)) := by
  have hpayload : ofStream streamId (streamCloseFrame (some streamId) "edge_closed") = true := by
    unfold ofStream
    rw [streamId_streamCloseFrame, decide_eq_true rfl, Bool.and_true]
    rfl
  cases h with
  | asking _ hnothing | refused _ hnothing =>
    rw [hnothing.streams _ hcurrent] at hentry
    cases hentry
  | running hquiet hentered hclosing _ hreceived =>
    have hsame := hentered.entry
    rw [hentry] at hsame
    cases hsame
    refine .closed hquiet (.inr ⟨hclosing, ?_, rfl⟩) (hreceived.handed hagent hpayload) ?_
    · have hended := @get?_endEdge edge (state.handed entry.via agent
        (streamCloseFrame (some streamId) "edge_closed")) conn hconn
      exact ⟨_, hended, rfl⟩
    · intro key hkey
      by_cases heq : key = state.streamIdOf edge
      · rw [heq]
        exact get?_erase_self _ _
      · exact (get?_erase_of_ne _ heq).trans (hentered.only key hkey heq)
  | closed _ _ _ hstreams =>
    rw [hstreams _ hcurrent] at hentry
    cases hentry

theorem step_edgeClose (hrunning : ¬ state.Crashed)
    (hconn : state.edgeConns.get? edge = some conn) (hgone : conn.gone = false) :
    step env state (.edgeClose edge) =
      callback (onEdgeClose env (state.streamIdOf edge)) (state.tick.endEdge edge) := by
  have hid : state.streamIdOf edge = conn.streamId := by
    unfold State.streamIdOf
    rw [hconn]
  have hstep : step env state (.edgeClose edge) =
      withEdge state.tick edge (fun conn => !conn.gone) fun conn =>
        callback (onEdgeClose env conn.streamId) (state.tick.endEdge edge) := by
    rw [step, if_neg hrunning]
    rfl
  rw [hstep, withEdge, show state.tick.edgeConns = state.edgeConns from rfl, hconn]
  dsimp only
  rw [hgone, if_pos (by rfl), hid]

theorem step_edgeClose_of_not_open (hrunning : ¬ state.Crashed)
    (h : ∀ conn, state.edgeConns.get? edge = some conn → conn.gone = true) :
    step env state (.edgeClose edge) = state.tick := by
  have hstep : step env state (.edgeClose edge) =
      withEdge state.tick edge (fun conn => !conn.gone) fun conn =>
        callback (onEdgeClose env conn.streamId) (state.tick.endEdge edge) := by
    rw [step, if_neg hrunning]
    rfl
  rw [hstep, withEdge, show state.tick.edgeConns = state.edgeConns from rfl]
  cases hconn : state.edgeConns.get? edge with
  | none => rfl
  | some conn =>
    dsimp only
    rw [h conn hconn, if_neg (by simp)]

theorem callback_onEdgeClose_of_none {key : Key} (hnone : state.streams.get? key = none) :
    callback (onEdgeClose env key) state = state := by
  unfold callback onEdgeClose
  split_ifs
  · rw [exec_bind, exec_get]
    dsimp only
    rw [hnone, forward, exec_bind, exec_pure]
    dsimp only
    rw [exec_modify, dropStream_of_none hnone]
  · rfl

theorem callback_onEdgeClose_connected {entry : Entry} {key : Key}
    (htruthy : truthy key.value = true) (hentry : state.streams.get? key = some entry)
    (hconnected : Connected state entry)
    (halive : ¬ (callback (onEdgeClose env key) (state.endEdge edge)).Crashed) :
    ∃ agent, state.agentConns.get? entry.via = some agent ∧
      callback (onEdgeClose env key) (state.endEdge edge) =
        ((state.handed entry.via agent (streamCloseFrame key.value "edge_closed")).endEdge
          edge).dropStream key := by
  obtain ⟨agent, hagent, hforward⟩ :=
    @exec_forward_connected env _ _ hconnected (streamCloseFrame key.value "edge_closed")
  refine ⟨agent, hagent, ?_⟩
  unfold callback onEdgeClose at halive ⊢
  rw [if_pos htruthy, exec_bind, exec_get] at halive ⊢
  dsimp only at halive ⊢
  rw [show (state.endEdge edge).streams.get? key = some entry from hentry, exec_bind,
    exec_forward_endEdge] at halive ⊢
  rcases hforward with ⟨error, hforward⟩ | hforward
  · rw [hforward] at halive
    exact absurd crashed_raise halive
  · rw [hforward]
    rfl

theorem tracks_edgeClose {state : State} (h : Tracks edge streamId heard state)
    (htruthy : truthy (some streamId) = true)
    (hconnected : ∀ entry, state.streams.get? (state.streamIdOf edge) = some entry →
      Connected state entry)
    (hrunning : ¬ state.Crashed) (halive : ¬ (step env state (.edgeClose edge)).Crashed) :
    Tracks edge streamId heard (step env state (.edgeClose edge)) := by
  have htick : Tracks edge streamId heard state.tick :=
    h.same sameView_tick fun _ => rfl
  by_cases hopen : ∀ conn, state.edgeConns.get? edge = some conn → conn.gone = true
  · rw [step_edgeClose_of_not_open hrunning hopen]
    exact htick
  push Not at hopen
  obtain ⟨conn, hconn, hgone⟩ := hopen
  rw [step_edgeClose hrunning hconn (by simpa using hgone)] at halive ⊢
  have hsame : (state.tick.endEdge edge).streamIdOf edge = state.streamIdOf edge :=
    @streamIdOf_endEdge edge state.tick conn hconn
  have hnothing : heard = [] → truthy (state.streamIdOf edge).value = false := by
    intro hnil
    rw [(h.before hnil).2.2]
    rfl
  cases hentry : state.streams.get? (state.streamIdOf edge) with
  | none =>
    have hnext := @callback_onEdgeClose_of_none env (state.tick.endEdge edge) _ hentry
    rw [hnext]
    refine ⟨fun hnil => ?_, fun opening data closing hconversation => ?_⟩
    · obtain ⟨hnothing, hquiet, hcurrent⟩ := htick.before hnil
      exact ⟨⟨hnothing.received, hnothing.streams⟩, hquiet, hsame ▸ hcurrent⟩
    · obtain ⟨hcurrent, hstage⟩ := htick.after opening data closing hconversation
      exact ⟨hsame ▸ hcurrent, hstage.ended hconn hentry⟩
  | some entry =>
    have hkept := hconnected entry hentry
    have hkeptTick : Connected state.tick entry := ⟨hkept.current, hkept.writable⟩
    refine ⟨fun hnil => ?_, fun opening data closing hconversation => ?_⟩
    · obtain ⟨hunserved, hquiet, hcurrent⟩ := htick.before hnil
      unfold onEdgeClose
      rw [hnothing hnil, if_neg Bool.false_ne_true]
      exact ⟨⟨hunserved.received, hunserved.streams⟩, hquiet, hsame ▸ hcurrent⟩
    · obtain ⟨hcurrent, hstage⟩ := htick.after opening data closing hconversation
      have hid : (state.streamIdOf edge).value = some streamId := hcurrent
      have hkey : truthy (state.streamIdOf edge).value = true := by
        rw [hid]
        exact htruthy
      obtain ⟨agent, hagent, hnext⟩ := @callback_onEdgeClose_connected env edge state.tick entry _
        hkey hentry hkeptTick halive
      rw [hnext, hid]
      refine ⟨?_, hstage.endedForwarded hconn hcurrent hentry hagent⟩
      exact (congrArg Key.value hsame).trans hid

/-! ## The route -/

theorem tracks_refused (hconn : state.edgeConns.get? edge = some conn)
    (hcurrent : (state.streamIdOf edge).value = some streamId) (hquiet : NotAsking edge state)
    (hnothing : Unserved streamId state) {reason : String} :
    (((state.told edge (streamCloseFrame (some streamId) reason)).closeEdge edge).streamIdOf
        edge).value = some streamId ∧
      Stage edge streamId opening data closing
        ((state.told edge (streamCloseFrame (some streamId) reason)).closeEdge edge) := by
  have hclosed : ((state.told edge (streamCloseFrame (some streamId) reason)).closeEdge
      edge).edgeConns.get? edge = ((state.told edge (streamCloseFrame (some streamId)
        reason)).edgeConns.get? edge).map _ := get?_update_self _ _ _
  rw [edge_told hconn, Option.map_some] at hclosed
  have htold : ((state.told edge (streamCloseFrame (some streamId) reason)).closeEdge
      edge).Informed edge (streamCloseFrame (some streamId) reason) := by
    refine ⟨_, hclosed, ?_⟩
    rw [sent_close, silent_close]
    split_ifs with hsilent
    · exact .inr hsilent
    · exact .inl (by simp)
  refine ⟨?_, .refused (fun id lookup hkind hedge hlookup => ?_) ⟨?_, fun key hkey => ?_⟩ htold⟩
  · unfold State.streamIdOf at hcurrent ⊢
    rw [hclosed]
    rw [hconn] at hcurrent
    dsimp only at hcurrent ⊢
    split <;> exact hcurrent
  · rw [show ((state.told edge (streamCloseFrame (some streamId) reason)).closeEdge edge).lookups =
      state.lookups from lookups_told _ _ _] at hlookup
    exact hquiet id lookup hkind hedge hlookup
  · exact hnothing.received.congr (agentConns_told _ _ _)
  · rw [show ((state.told edge (streamCloseFrame (some streamId) reason)).closeEdge edge).streams =
      state.streams from streams_told _ _ _]
    exact hnothing.streams key hkey

theorem tracks_route {state : State} {id : ℕ} {lookup : Lookup} {route : Route}
    (h : Tracks edge streamId heard state) (hrunning : ¬ state.Crashed)
    (hlookup : state.lookups.get? id = some lookup) (hkind : lookup.kind = .streamOpen)
    (hedge : lookup.edge = edge) (hinTime : ∀ tunnel target connection,
      connectedTarget state route = some (tunnel, target, connection) →
        heard = [lookup.frame] ∧ ¬ state.EdgeGone edge ∧ state.Writable connection)
    (hthere : state.edgeConns.get? edge ≠ none)
    (halive : ¬ (step env state (.routeResolved id route)).Crashed) :
    Tracks edge streamId heard (step env state (.routeResolved id route)) := by
  rw [step_routeResolved env hrunning hlookup] at halive ⊢
  have hroute : onRoute env lookup route = streamOpen env lookup route := by
    unfold onRoute
    rw [hkind]
  rw [hroute] at halive ⊢
  refine ⟨fun hnil => ?_, fun opening data closing hconversation => ?_⟩
  · exact absurd hlookup ((h.before hnil).2.1 id lookup hkind hedge)
  obtain ⟨hcurrent, hstage⟩ := h.after opening data closing hconversation
  -- the lookup is the one the stream waits for
  obtain ⟨number, hasking, hnothing⟩ : ∃ number, Asking edge streamId opening number state ∧
      Unserved streamId state := by
    cases hstage with
    | asking hasking hnothing => exact ⟨_, hasking, hnothing⟩
    | refused hquiet | running hquiet | closed hquiet =>
      exact absurd hlookup (hquiet id lookup hkind hedge)
  have hid := hasking.only id lookup hkind hedge hlookup
  subst hid
  have hfound := hasking.lookup
  rw [hlookup] at hfound
  cases hfound
  have hquiet : NotAsking edge (state.tick.forgetLookup id) := by
    intro other asked hkind hedge hasked
    obtain ⟨hne, hbefore⟩ := get?_of_get?_erase hasked
    exact hne (hasking.only other asked hkind hedge hbefore)
  have hframe : opening.get? "streamId" = some streamId := by
    apply hconversation.named
    rw [hconversation.shape]
    exact List.mem_cons_self
  unfold voidAsync at halive ⊢
  cases hexec : exec (streamOpen env ⟨.streamOpen, edge, opening, id⟩ route)
      (state.tick.forgetLookup id) with
  | mk result next =>
    rw [hexec] at halive
    cases result with
    | error error => exact absurd crashed_raise halive
    | ok a =>
      obtain ⟨conn, hconn⟩ := Option.ne_none_iff_exists'.1 hthere
      rcases streamOpen_cases hexec with hcrashed | ⟨-, -, rfl⟩ |
        ⟨tunnel, target, connection, hto, hsend⟩
      · exact absurd hcrashed halive
      · rw [hframe]
        have hconnLater : (state.tick.forgetLookup id).edgeConns.get? edge = some conn := hconn
        exact tracks_refused hconnLater hcurrent hquiet
          ⟨hnothing.received, hnothing.streams⟩
      · obtain ⟨rfl, hopen, agent, hagent, hsilent, hended⟩ := hinTime tunnel target connection hto
        obtain ⟨-, rfl, rfl⟩ := hconversation.first
        have hpayload : ofStream streamId (streamOpenFrame opening target tunnel) = true := by
          have hopening := hconversation.ofStream List.mem_cons_self
          unfold ofStream at hopening ⊢
          rwa [streamId_streamOpenFrame, type_streamOpenFrame, type_streamOpenFrame,
            type_streamOpenFrame]
        rw [hframe] at hsend
        have hunserved : Logged streamId (fun _ => []) ((state.tick.forgetLookup id).addStream
            (Key.of id (some streamId)) edge target.agentId connection) := hnothing.received
        rcases @exec_sendAgent_writable env ((state.tick.forgetLookup id).addStream
            (Key.of id (some streamId)) edge target.agentId connection) connection agent hagent
            hsilent hended (streamOpenFrame opening target tunnel) with ⟨error, hthrown⟩ | hsent
        · rw [hthrown] at hsend
          cases hsend
        · rw [hsent] at hsend
          cases hsend
          have hentered : Entered edge streamId ⟨edge, target.agentId, none, connection⟩
              (((state.tick.forgetLookup id).addStream
                (Key.of id (some streamId)) edge target.agentId connection).handed connection
                  agent (streamOpenFrame opening target tunnel)) := by
            refine ⟨?_, fun key hkey hne => ?_⟩
            · change (state.streams.set (Key.of id (some streamId)) _).get?
                (state.streamIdOf edge) = _
              rw [hasking.current]
              exact get?_set_self _ _ _
            · have hother : key ≠ Key.of id (some streamId) := by
                rw [← hasking.current]
                exact hne
              exact (get?_set_of_ne _ hother _).trans (hnothing.streams key hkey)
          exact ⟨hcurrent, .running hquiet hentered rfl hopen
            (hunserved.handed hagent hpayload)⟩

/-! ## Runs -/

/-- What holds of the stream of an edge between the steps of a run. -/
structure Followed (edge : ℕ) (streamId : Json) (watched : Watched) : Prop where
  alone : Alone edge streamId watched.relay
  asked : ∀ id lookup, watched.relay.lookups.get? id = some lookup →
    watched.relay.edgeConns.get? lookup.edge ≠ none
  closed : ∀ other conn, watched.relay.edgeConns.get? other = some conn → conn.gone = true →
    conn.framed.destroyed = true
  tracks : Tracks edge streamId watched.heard watched.relay

theorem followed_initial (htruthy : truthy (some streamId) = true) :
    Followed edge streamId {} where
  alone := by
    refine ⟨fun other _ hother => ?_, fun _ _ => nofun, fun _ _ => nofun⟩
    cases hother
    cases htruthy
  asked _ _ h := by cases h
  closed _ _ h := by cases h
  tracks := tracks_initial

theorem standing_step {state : State} (hasked : ∀ id lookup, state.lookups.get? id = some lookup →
      state.edgeConns.get? lookup.edge ≠ none)
    (hclosed : ∀ other conn, state.edgeConns.get? other = some conn → conn.gone = true →
      conn.framed.destroyed = true) (halive : ¬ (step env state event).Crashed) :
    (∀ id lookup, (step env state event).lookups.get? id = some lookup →
      (step env state event).edgeConns.get? lookup.edge ≠ none) ∧
    ∀ other conn, (step env state event).edgeConns.get? other = some conn → conn.gone = true →
      conn.framed.destroyed = true := by
  have hmoves := moves_of_step halive
  generalize step env state event = last at hmoves
  suffices hall : (∀ edge, state.tick.edgeConns.get? edge ≠ none →
      last.edgeConns.get? edge ≠ none) ∧ (∀ id lookup, last.lookups.get? id = some lookup →
      last.edgeConns.get? lookup.edge ≠ none) ∧ ∀ other conn,
        last.edgeConns.get? other = some conn → conn.gone = true →
          conn.framed.destroyed = true from hall.2
  induction hmoves with
  | refl => exact ⟨fun _ h => h, hasked, hclosed⟩
  | tail _ hmove ih =>
    obtain ⟨hthere, haskedBefore, hclosedBefore⟩ := ih
    exact ⟨fun edge h => hmove.edge_ne_none (hthere edge h),
      fun _ _ => hmove.asked hthere haskedBefore, fun _ _ => hmove.closed hclosedBefore⟩

variable {watched : Watched}

theorem followed_step (h : Followed edge streamId watched)
    (hguard : Undisturbed env edge streamId watched event)
    (halive : ¬ (step env watched.relay event).Crashed) :
    Followed edge streamId (watch env edge watched event) := by
  have hrunning : ¬ watched.relay.Crashed := fun hcrashed => halive (crashed_step hcrashed event)
  obtain ⟨hasked, hclosed⟩ := standing_step h.asked h.closed halive
  refine ⟨alone_step h.alone hguard.unshared halive, hasked, hclosed, ?_⟩
  by_cases hconcerns : Concerns watched.relay edge event
  · rcases hconcerns with ⟨chunk, rfl⟩ | rfl | ⟨lookup, route, ⟨id, rfl, hlookup⟩, hkind, hedge⟩
    · exact tracks_edgeData h.tracks hguard.named (h.closed edge)
        (hguard.connected (.inl ⟨chunk, rfl⟩)) hrunning halive
    · unfold watch framesOf
      rw [List.append_nil]
      exact tracks_edgeClose h.tracks hguard.named (hguard.connected (.inr rfl)) hrunning halive
    · unfold watch framesOf
      dsimp only
      rw [List.append_nil]
      refine tracks_route h.tracks hrunning hlookup hkind hedge ?_ ?_ halive
      · intro tunnel target connection
        exact hguard.inTime lookup route tunnel target connection ⟨id, rfl, hlookup⟩ hkind hedge
      · rw [← hedge]
        exact h.asked id lookup hlookup
  · have hquiet : framesOf env watched.relay edge event = [] := by
      unfold framesOf
      split
      · rename_i other chunk
        have hne : other ≠ edge := by
          rintro rfl
          exact hconcerns (.inl ⟨chunk, rfl⟩)
        rw [if_neg hne]
      · rfl
    unfold watch
    rw [hquiet, List.append_nil]
    apply h.tracks.same
    · exact sameView_step h.alone hguard.unshared hconcerns hguard.stays halive
    · have hlogged : Logged streamId (fun connection => watched.relay.received connection streamId)
          watched.relay := fun _ => rfl
      exact logged_step env hlogged h.alone hguard.unshared hconcerns

/-- In every run that is not disturbed the stream is forwarded whole and in order. -/
theorem forwards_run (events : List Event)
    (h : Along (watch env edge) (Undisturbed env edge streamId) {} events) :
    Throughout (watch env edge)
      (fun watched => ¬ watched.relay.Crashed → Forwards edge streamId watched) {} events := by
  cases events with
  | nil => exact fun _ _ _ _ hconversation => absurd rfl hconversation.ne_nil
  | cons event events =>
    have hfollowed : Throughout (watch env edge)
        (fun watched => ¬ watched.relay.Crashed → Followed edge streamId watched) {}
        (event :: events) := by
      refine h.throughout (fun watched event hbefore hguard halive => ?_)
        fun _ => followed_initial h.1.named
      have hrunning : ¬ watched.relay.Crashed :=
        fun hcrashed => halive (crashed_step hcrashed event)
      exact followed_step (hbefore hrunning) hguard halive
    refine hfollowed.mono fun watched hbefore halive opening data closing hconversation => ?_
    exact ((hbefore halive).tracks.after opening data closing hconversation).2.outcome

/-! ## Data before the route -/

def streamDatum (streamId : String) : Json :=
  .obj [("type", .str "stream_data"), ("streamId", .str streamId)]

def streamEnv : Env := .plain [agentHello "a1", streamOpening "s1" "d1", streamDatum "s1"]

def servedRun : List Event :=
  edgeRun ++ [.edgeData 0 (Codec.wire (streamOpening "s1" "d1")),
    .routeResolved 8 (activeRoute "a1"), .edgeData 0 (Codec.wire (streamDatum "s1")), .edgeClose 0]

theorem undisturbed_of_idle (hnamed : truthy (some streamId) = true)
    (hempty : watched.relay.streams.entries = [])
    (hown : ∀ other chunk, event = .edgeData other chunk → other = edge)
    (hroute : ∀ id route, event ≠ .routeResolved id route) :
    Undisturbed env edge streamId watched event := by
  have hnone : ∀ key entry, watched.relay.streams.get? key ≠ some entry := by
    intro key entry hentry
    have hmem := get?_eq_some_iff.1 hentry
    rw [hempty] at hmem
    cases hmem
  refine ⟨hnamed, ?_, fun key entry _ hentry => absurd hentry (hnone key entry),
    fun _ entry hentry => absurd hentry (hnone _ entry), ?_⟩
  · rintro other frame hne ⟨chunk, -, hevent, -⟩
    exact absurd (hown other chunk hevent) hne
  · rintro lookup route - - - ⟨id, hevent, -⟩
    exact absurd hevent (hroute id route)

theorem undisturbed_of_own {event : Event} {entry : Entry}
    (hnamed : truthy (some streamId) = true)
    (hentry : watched.relay.streams.get? (watched.relay.streamIdOf edge) = some entry)
    (hconnected : Connected watched.relay entry) (hown : OfEdge edge event) :
    Undisturbed env edge streamId watched event := by
  refine ⟨hnamed, ?_, fun _ _ _ _ => ⟨?_, ?_⟩, fun _ found hfound => ?_, ?_⟩
  · rintro other frame hne ⟨chunk, -, rfl, -⟩
    rcases hown with ⟨_, hdata⟩ | hclose
    · cases hdata
      exact absurd rfl hne
    · cases hclose
  · rintro ⟨connection, -, rfl, -⟩
    rcases hown with ⟨_, h⟩ | h <;> cases h
  · rintro frame ⟨connection, chunk, -, rfl, -⟩
    rcases hown with ⟨_, h⟩ | h <;> cases h
  · rw [hentry] at hfound
    cases hfound
    exact hconnected
  · rintro lookup route - - - ⟨id, rfl, -⟩
    rcases hown with ⟨_, h⟩ | h <;> cases h

theorem undisturbed_of_route {watched : Watched} {id : ℕ} {route : Route} {lookup : Lookup}
    (hnamed : truthy (some streamId) = true) (hempty : watched.relay.streams.entries = [])
    (hlookup : watched.relay.lookups.get? id = some lookup)
    (hheard : watched.heard = [lookup.frame]) (hthere : ¬ watched.relay.EdgeGone edge)
    (hwritable : ∀ tunnel target connection,
      connectedTarget watched.relay route = some (tunnel, target, connection) →
        watched.relay.Writable connection) :
    Undisturbed env edge streamId watched (.routeResolved id route) := by
  refine ⟨hnamed, ?_, fun key entry _ hentry => ?_, ?_, ?_⟩
  · rintro other frame - ⟨chunk, -, hevent, -⟩
    cases hevent
  · have hmem := get?_eq_some_iff.1 hentry
    rw [hempty] at hmem
    cases hmem
  · rintro (⟨_, hdata⟩ | hclose)
    · cases hdata
    · cases hclose
  · rintro asked answer tunnel target connection ⟨number, hevent, hasked⟩ - - hto
    cases hevent
    rw [hlookup] at hasked
    cases hasked
    exact ⟨hheard, hthere, hwritable tunnel target connection hto⟩

theorem writable_of_map {state : State} (h : (state.agentConns.get? connection).map
      (fun agent => (agent.framed.silent, agent.framed.ended)) = some (false, false)) :
    state.Writable connection := by
  obtain ⟨agent, hagent, hopen⟩ := Option.map_eq_some_iff.1 h
  exact ⟨agent, hagent, congrArg Prod.fst hopen, congrArg Prod.snd hopen⟩

theorem forwards_servedRun :
    Throughout (watch streamEnv 0)
      (fun watched => ¬ watched.relay.Crashed → Forwards 0 (.str "s1") watched) {} servedRun := by
  have hnamed : truthy (some (.str "s1")) = true := by decide
  apply forwards_run
  refine ⟨?_, ?_, ?_, ?_, ?_, ?_, ?route, ?data, ?close, trivial⟩
  case route =>
    refine @undisturbed_of_route _ _ _ _ _ _ ⟨.streamOpen, 0, streamOpening "s1" "d1", 8⟩ hnamed
      (by decide +kernel) (by decide +kernel) (by decide +kernel) ?_ ?_
    · rintro ⟨conn, hconn, hclosed⟩
      have hgone : (some conn).map EdgeConnection.gone = some false := by
        rw [← hconn]
        decide +kernel
      rw [Option.map_some, hclosed] at hgone
      cases hgone
    · intro tunnel target connection hto
      have hzero : (some (tunnel, target, connection)).map (fun found => found.2.2) = some 0 := by
        rw [← hto]
        decide +kernel
      cases hzero
      exact writable_of_map (by decide +kernel)
  case data =>
    exact @undisturbed_of_own _ _ _ _ _ ⟨0, "a1", none, 0⟩ hnamed (by decide +kernel)
      ⟨by decide +kernel, writable_of_map (by decide +kernel)⟩ (.inl ⟨_, rfl⟩)
  case close =>
    exact @undisturbed_of_own _ _ _ _ _ ⟨0, "a1", none, 0⟩ hnamed (by decide +kernel)
      ⟨by decide +kernel, writable_of_map (by decide +kernel)⟩ (.inr rfl)
  all_goals
    refine undisturbed_of_idle hnamed (by decide +kernel) ?_ nofun
    rintro _ _ ⟨⟩
  rfl

def earlyRun : List Event :=
  edgeRun ++ [.edgeData 0 (Codec.wire (streamOpening "s1" "d1")),
    .edgeData 0 (Codec.wire (streamDatum "s1")), .edgeClose 0, .routeResolved 8 (activeRoute "a1")]

/-- The agent is sent the opening only, and the stream has an entry. -/
theorem not_forwards_earlyRun :
    ¬ (run (watch streamEnv 0) {} earlyRun).relay.Crashed ∧
      ¬ Forwards 0 (.str "s1") (run (watch streamEnv 0) {} earlyRun) := by
  refine ⟨by decide +kernel, fun hforwards => ?_⟩
  have hheard : (run (watch streamEnv 0) {} earlyRun).heard =
      [streamOpening "s1" "d1", streamDatum "s1"] := by
    decide +kernel
  have hreceived : ((run (watch streamEnv 0) {} earlyRun).relay.received 0
      (.str "s1")).length = 1 := by
    decide +kernel
  have hlookups : (run (watch streamEnv 0) {} earlyRun).relay.lookups.entries = [] := by
    decide +kernel
  have hconversation : Conversation (.str "s1") (run (watch streamEnv 0) {} earlyRun).heard
      (streamOpening "s1" "d1") [streamDatum "s1"] [] := by
    rw [hheard]
    exact ⟨rfl, by decide, by decide, by decide, by decide⟩
  -- only a whole stream or nothing was to be handed over
  have hnot : ∀ {connection : ℕ} {frames : List Json}, frames.length ≠ 1 →
      ¬ Carried (.str "s1") (run (watch streamEnv 0) {} earlyRun).relay connection frames := by
    intro connection frames hlength hcarried
    rw [hcarried 0, Function.update_apply] at hreceived
    split_ifs at hreceived
    exact hlength hreceived
  cases hforwards _ _ _ hconversation with
  | pending hnothing hlookup =>
    have hmem := get?_eq_some_iff.1 hlookup
    rw [hlookups] at hmem
    cases hmem
  | refused hnothing =>
    rw [hnothing.received 0] at hreceived
    cases hreceived
  | underway _ _ hcarried | finished _ hcarried => exact hnot (by simp) hcarried

end Tunnara.Relay
