/-
# An upgrade, from the client to the service

`EdgeServer.#upgrade`, the frames it has sent to the agent in their order, and the
socket the agent opens for them. The service receives the request head and what the
client sends, in order, unless frames come to the agent before its socket is connected:
those are written before the head.
-/

import Tunnara.Agent.Streams
import Tunnara.Edge.Allowed

namespace Tunnara.Edge

open Policy Relay Transition

/-! ## What the Edge sends -/

namespace Ends

/-- The stream was opened, then every chunk read was sent, then the stream was closed, which
happens when the client is done. -/
def Flows (streamId : String) (opening : Json) (ends : Ends) : Prop :=
  ∃ chunks closes, Traffic streamId ends.relay.framed.sent [opening] chunks closes ∧
    ends.client.read = chunks ∧
    (closes ≠ [] → ends.client.finished = true ∨ ends.client.destroyed = true)

/-- Frames are only added, and the stream stays in order. -/
def FlowsOn (streamId : String) (opening : Json) (ends next : Ends) : Prop :=
  ends.relay.framed.sent <+: next.relay.framed.sent ∧ next.Flows streamId opening

variable {env : Env} {passes : Bool} {streamId : String} {opening : Json} {ends next : Ends}

theorem Flows.still (h : ends.Flows streamId opening) (hstill : ends.Still next) :
    FlowsOn streamId opening ends next := by
  obtain ⟨chunks, closes, htraffic, hread, hdone⟩ := h
  refine ⟨hstill.sent ▸ List.prefix_refl _, chunks, closes, ?_, hstill.read.trans hread, ?_⟩
  · rw [hstill.sent]
    exact htraffic
  · intro hcloses
    rcases hdone hcloses with hfinished | hdestroyed
    · exact .inl (hstill.finished hfinished)
    · exact .inr (hstill.destroyed hdestroyed)

theorem FlowsOn.trans {last : Ends} (h : FlowsOn streamId opening ends next)
    (h' : FlowsOn streamId opening next last) : FlowsOn streamId opening ends last :=
  ⟨h.1.trans h'.1, h'.2⟩

theorem Flows.data (h : ends.Flows streamId opening)
    (hundone : ¬ (ends.client.destroyed = true ∨ ends.client.finished = true))
    (chunk : List UInt8) : FlowsOn streamId opening ends
      ({ ends with client.read := ends.client.read ++ [chunk] }.wrote
        (streamDataFrame streamId chunk)) := by
  obtain ⟨chunks, closes, htraffic, hread, hdone⟩ := h
  have hnone : closes = [] := by
    by_contra hcloses
    exact hundone (hdone hcloses).symm
  subst hnone
  refine ⟨List.prefix_append _ _, chunks ++ [chunk], [], htraffic.data chunk, ?_, nofun⟩
  show ends.client.read ++ [chunk] = chunks ++ [chunk]
  rw [hread]

theorem Flows.close (h : ends.Flows streamId opening)
    (hdone : ends.client.finished = true ∨ ends.client.destroyed = true) {reason : String}
    (hsend : ends.send env passes (streamCloseFrame streamId reason) = .ok next) :
    FlowsOn streamId opening ends next := by
  rcases send_cases hsend with ⟨-, rfl⟩ | hstill
  · obtain ⟨chunks, closes, htraffic, hread, -⟩ := h
    exact ⟨List.prefix_append _ _, chunks, _, htraffic.close hasType_streamCloseFrame, hread,
      fun _ => hdone⟩
  · exact h.still hstill

end Ends

namespace UpgradeSession

variable {config : Config} {session : UpgradeSession} {opening : Json}

theorem still_onFrame {frame : Json} : session.ends.Still (session.onFrame config frame).ends := by
  unfold onFrame
  split_ifs
  · exact .refl _
  · exact .refl _
  · split
    · exact .refl _
    · exact Ends.still_writeClient
  · exact Ends.still_endClient.trans Ends.still_closeRelay
  · exact .refl _

theorem still_signals (signals : List Signal) :
    session.ends.Still (run (onSignal config) session signals).ends := by
  induction signals generalizing session with
  | nil => exact .refl _
  | cons signal rest ih =>
    have hfirst : session.ends.Still (session.onSignal config signal).ends := by
      cases signal with
      | frame frame => exact still_onFrame
      | malformed => exact .refl _
      | invalidLength => exact Ends.still_failRelay
    exact hfirst.trans ih

/-- A chunk of the client can be sent when it comes. -/
def Accepts (config : Config) (session : UpgradeSession) : SocketEvent → Prop
  | .clientData chunk =>
    ¬ (session.ends.client.destroyed = true ∨ session.ends.client.finished = true) →
      session.ends.CanSend config.env (streamDataFrame session.streamId chunk)
  | _ => True

theorem flowsOn_handleRunning (h : session.ends.Flows session.streamId opening)
    {event : SocketEvent} (haccepts : session.Accepts config event) :
    Ends.FlowsOn session.streamId opening session.ends (session.handleRunning config event).ends := by
  have hstay : Ends.FlowsOn session.streamId opening session.ends session.ends := h.still (.refl _)
  cases event with
  | relayConnected => exact hstay
  | relayFailed => exact h.still Ends.still_relaySocketFails
  | relayData chunk =>
    have hbuffered : session.ends.Still { session.ends with relay.framed.buffer :=
        (drain config.env.codec (session.ends.relay.framed.buffer ++ chunk)).2 } :=
      ⟨rfl, rfl, id, id⟩
    rw [handleRunning]
    split_ifs
    · exact hstay
    · exact h.still (hbuffered.trans (@still_signals config { session with
        ends.relay.framed.buffer :=
          (drain config.env.codec (session.ends.relay.framed.buffer ++ chunk)).2 } _))
  | relayEnd =>
    rw [handleRunning]
    split_ifs
    · exact hstay
    · exact h.still ⟨rfl, rfl, id, id⟩
  | relayClose =>
    rw [handleRunning]
    split_ifs
    · exact hstay
    · exact h.still Ends.still_relayCloses
  | clientData chunk =>
    rw [handleRunning]
    split_ifs with hdone
    · exact hstay
    · have hcan := haccepts hdone
      have hread : ({ session.ends with client.read := session.ends.client.read ++ [chunk] } :
          Ends).CanSend config.env (streamDataFrame session.streamId chunk) :=
        ⟨hcan.unclosed, hcan.unended, hcan.fits⟩
      rw [onClientData]
      rw [hread.send]
      exact h.data hdone chunk
  | clientEnd =>
    have hfinished := @Ends.Flows.still _ _ _
      { session.ends with client.finished := true } h ⟨rfl, rfl, fun _ => rfl, id⟩
    rw [handleRunning]
    split_ifs
    · exact hstay
    · rw [onClientEnd, sendClose]
      cases hsend : ({ session.ends with client.finished := true } : Ends).send config.env false
          (streamCloseFrame session.streamId "client_end") with
      | error error => exact hfinished.trans (hfinished.2.still Ends.still_raise)
      | ok next => exact hfinished.trans (hfinished.2.close (.inl rfl) hsend)
  | clientClose =>
    have hgone := @Ends.Flows.still _ _ _ { session.ends with client :=
      { session.ends.client with gone := true, destroyed := true } } h ⟨rfl, rfl, id, fun _ => rfl⟩
    rw [handleRunning]
    split_ifs
    · exact hstay
    · rw [onClientClose, sendClose]
      cases hsend : ({ session.ends with client := { session.ends.client with
          gone := true, destroyed := true } } : Ends).send config.env false
          (streamCloseFrame session.streamId "client_close") with
      | error error => exact hgone.trans (hgone.2.still Ends.still_raise)
      | ok next =>
        have hclosed := hgone.trans (hgone.2.close (.inr rfl) hsend)
        exact hclosed.trans (hclosed.2.still Ends.still_closeRelay)
  | clientFailed => exact h.still Ends.still_clientSocketFails

/-- The engine has allowed the request with the decision. -/
def Granted (config : Config) (session : UpgradeSession) (decision : PolicyResult) : Prop :=
  ∃ route buckets, decision.allowed = true ∧
    config.decision route session.request session.hostname buckets = .ok decision

/-- The request head under an allowing decision, and what came with the request. -/
def Serialised (config : Config) (session : UpgradeSession) (initial : List UInt8) : Prop :=
  ∃ decision, session.Granted config decision ∧ initial = session.initial config decision

variable {initial : List UInt8} {route : Json}

theorem Serialised.congr {next : UpgradeSession} {throws : Prop}
    (h : session.Serialised config initial) (hnext : session.Continues config throws next) :
    next.Serialised config initial := by
  obtain ⟨decision, ⟨route, buckets, hallowed, hdecision⟩, hinitial⟩ := h
  refine ⟨decision, ⟨route, buckets, hallowed, ?_⟩, ?_⟩
  · rw [hnext.request, hnext.hostname]
    exact hdecision
  · rw [hinitial, UpgradeSession.initial, UpgradeSession.initial, hnext.request, hnext.httpVersion,
      hnext.head]

/-- Nothing was sent and nothing read; a decision that is held has allowed the request. -/
structure Idle (config : Config) (session : UpgradeSession) : Prop where
  phase : session.phase ≠ .running
  sent : session.ends.relay.framed.sent = []
  read : session.ends.client.read = []
  granted : ∀ route decision, session.phase = .connecting route decision →
    session.Granted config decision

section

variable (h : session.Idle config)
include h

theorem Idle.still {ends : Ends} (hstill : session.ends.Still ends) :
    Idle config { session with ends } :=
  ⟨h.phase, hstill.sent.trans h.sent, hstill.read.trans h.read, h.granted⟩

theorem Idle.refuse (status : String) : (session.refuse status).Idle config := by
  have hstill : session.ends.Still
      ((session.ends.writeClient (statusLine status)).destroyClient false) :=
    Ends.still_writeClient.trans Ends.still_destroyClient
  exact ⟨nofun, hstill.sent.trans h.sent, hstill.read.trans h.read, nofun⟩

omit h in
theorem idle_arrive {config : Config} {request : Request} {httpVersion : String}
    {head : List UInt8} {streamId : String} :
    (arrive config request httpVersion head streamId).Idle config := by
  have hidle : Idle config { request, httpVersion, head, hostname := "", streamId } :=
    ⟨nofun, rfl, rfl, nofun⟩
  unfold arrive
  split
  · exact hidle.refuse _
  · exact ⟨nofun, rfl, rfl, nofun⟩

theorem Idle.handleAlone (event : SocketEvent) :
    (session.handleAlone config event).Idle config := by
  obtain ⟨ends, hends, hstill⟩ := @still_handleAlone config session event
  rw [hends]
  exact h.still hstill

theorem Idle.routeResolved (route : Option Json) : (session.routeResolved route).Idle config := by
  unfold UpgradeSession.routeResolved
  split
  · split_ifs
    · exact ⟨nofun, h.sent, h.read, nofun⟩
    · exact h.refuse _
    · exact h.refuse _
  · exact h.refuse _

theorem Idle.decided (route : Json) (buckets : RateBuckets) :
    (session.decided config route buckets).Idle config := by
  unfold UpgradeSession.decided
  split
  · next decision hdecision =>
      split_ifs with hallowed
      · refine ⟨nofun, h.sent, h.read, ?_⟩
        intro _ _ hphase
        cases hphase
        exact ⟨route, buckets, hallowed, hdecision⟩
      · exact h.refuse _
  · exact h.refuse _

end

/-- The upgrade runs, and its stream was opened with the serialised request. -/
structure Streams (config : Config) (session : UpgradeSession) (route : Json)
    (initial : List UInt8) : Prop where
  phase : session.phase = .running
  serialised : session.Serialised config initial
  flows : session.ends.Flows session.streamId (upgradeFrame session.streamId route initial)

theorem Idle.connected (h : session.Idle config) {decision : PolicyResult}
    (hgranted : session.Granted config decision) :
    (session.connected config route decision).Idle config ∨
      ∃ initial, (session.connected config route decision).Streams config route initial := by
  have hfresh : Idle config { session with ends.relay := {} } := ⟨h.phase, rfl, h.read, h.granted⟩
  obtain ⟨hsent, hthrown⟩ := @Ends.send_fresh config.env false { session.ends with relay := {} }
    (upgradeFrame session.streamId route (session.initial config decision)) rfl
  have hopening := hasType_upgradeFrame session.streamId route (session.initial config decision)
  have hother : ∀ type, type ≠ "stream_open" → hasType (upgradeFrame session.streamId route
      (session.initial config decision)) type = false := hasType_other hopening
  unfold UpgradeSession.connected
  dsimp only
  by_cases hfits : FramedConnection.Fits config.env.codec
      (upgradeFrame session.streamId route (session.initial config decision))
  · rw [hsent hfits]
    right
    refine ⟨session.initial config decision, rfl, ⟨decision, hgranted, rfl⟩, [], [], ?_, h.read,
      nofun⟩
    refine ⟨rfl, fun frame hframe => ?_, nofun⟩
    rw [List.mem_singleton.1 hframe]
    exact ⟨hother _ (by decide), hother _ (by decide)⟩
  · obtain ⟨error, herror⟩ := hthrown hfits
    rw [herror]
    exact .inl (hfresh.refuse _)

theorem Streams.continues {next : UpgradeSession} {throws : Prop}
    (h : session.Streams config route initial) (hnext : session.Continues config throws next)
    (hflows : Ends.FlowsOn session.streamId (upgradeFrame session.streamId route initial)
      session.ends next.ends) : next.Streams config route initial :=
  ⟨hnext.phase.trans h.phase, h.serialised.congr hnext, hnext.streamId ▸ hflows.2⟩

theorem Idle.step (h : session.Idle config) (event : ServerEvent) :
    (session.step config event).Idle config ∨
      ∃ route initial, (session.step config event).Streams config route initial := by
  unfold UpgradeSession.step
  split_ifs
  · exact .inl h
  · unfold UpgradeSession.handle
    split
    · exact .inl (h.routeResolved _)
    · exact .inl (h.decided _ _)
    · next hphase =>
        rcases h.connected (h.granted _ _ hphase) with hidle | ⟨initial, hstreams⟩
        · exact .inl hidle
        · exact .inr ⟨_, initial, hstreams⟩
    · exact .inl (h.refuse _)
    · next hphase => exact absurd hphase h.phase
    · next hphase => exact absurd hphase h.phase
    · exact .inl (h.handleAlone _)
    · exact .inl h

/-- A running upgrade accepts what comes. -/
def AcceptsServer (config : Config) (session : UpgradeSession) : ServerEvent → Prop
  | .socket event => session.phase = .running → session.Accepts config event
  | _ => True

theorem Streams.step (h : session.Streams config route initial) {event : ServerEvent}
    (haccepts : session.AcceptsServer config event) :
    (session.step config event).Streams config route initial ∧
      session.ends.relay.framed.sent <+: (session.step config event).ends.relay.framed.sent := by
  have hsame : session.Streams config route initial ∧
      session.ends.relay.framed.sent <+: session.ends.relay.framed.sent :=
    ⟨h, List.prefix_refl _⟩
  unfold UpgradeSession.step
  split_ifs
  · exact hsame
  · cases event with
    | socket event =>
      have hflows := flowsOn_handleRunning h.flows (haccepts h.phase)
      have hrunning := h.continues (continues_handleRunning event) hflows
      simp only [UpgradeSession.handle, h.phase]
      exact ⟨hrunning, hflows.1⟩
    | timeout =>
      have hstill : session.ends.Still session.onTimeout.ends := by
        unfold onTimeout
        split_ifs
        · dsimp only
          split_ifs
          · exact .refl _
          · exact (Ends.still_writeClient.trans Ends.still_destroyClient).trans
              Ends.still_destroyRelay
        · exact .refl _
      have hflows := h.flows.still hstill
      have hrunning := h.continues (@continues_onTimeout config False session) hflows
      simp only [UpgradeSession.handle, h.phase]
      exact ⟨hrunning, hflows.1⟩
    | routeResolved route | decided buckets | bodyRead body =>
      simp only [UpgradeSession.handle, h.phase]
      exact hsame

end UpgradeSession

end Tunnara.Edge

namespace Tunnara.Agent

open Tunnara Policy Relay Edge Transition

/-! ## The passage to the service -/

/-- An upgrade at the Edge and its stream at the agent, to which the Relay forwards the
frames in their order. -/
structure Passage where
  edge : UpgradeSession
  /-- How many of the frames sent have come to the agent. -/
  delivered : ℕ := 0
  upstream : Upstream := {}

namespace Passage

inductive PassageEvent
  | edge (event : ServerEvent)
  /-- The next frame comes to the agent. -/
  | deliver
  | service (event : Upstream.LocalEvent)

/-- The frame that comes next. -/
def next? (passage : Passage) : Option Json :=
  passage.edge.ends.relay.framed.sent[passage.delivered]?

variable (config : Config) (allowed : Bool)

def step (passage : Passage) : PassageEvent → Passage
  | .edge event => { passage with edge := passage.edge.step config event }
  | .deliver =>
    match passage.next? with
    | none => passage
    | some frame => { passage with
        delivered := passage.delivered + 1
        upstream := passage.upstream.onFrame config.env allowed frame }
  | .service event => { passage with upstream := passage.upstream.onLocal config.env event }

/-- The service receives the serialised request and then what the client sends, in order;
and it has received all of it once every frame has come and its socket is connected, unless
it has broken the stream off. -/
structure InOrder (passage : Passage) : Prop where
  unsent : passage.edge.ends.relay.framed.sent = [] → passage.upstream.written = []
  received : passage.edge.ends.relay.framed.sent ≠ [] → ∃ initial,
    passage.edge.Serialised config initial ∧
    passage.upstream.written.flatten <+: initial ++ passage.edge.ends.client.read.flatten ∧
    (passage.upstream.connected = true → passage.upstream.cut = false → passage.next? = none →
      passage.upstream.written.flatten = initial ++ passage.edge.ends.client.read.flatten)

/-- Chunks can be sent when they come, and only the first frame comes to the agent before
its socket is connected. -/
def Timely (passage : Passage) : PassageEvent → Prop
  | .edge event => passage.edge.AcceptsServer config event
  | .deliver => ∀ frame, passage.next? = some frame → hasType frame "stream_open" = false →
      ¬ passage.upstream.Connecting
  | .service _ => True

/-- Nothing has come to the agent, or what has come is what the service was handed. -/
inductive Passing (passage : Passage) : Prop
  | idle (edge : passage.edge.Idle config) (delivered : passage.delivered = 0)
      (upstream : passage.upstream = {})
  | streams (route : Json) (initial : List UInt8)
      (edge : passage.edge.Streams config route initial)
      (delivered : passage.delivered ≤ passage.edge.ends.relay.framed.sent.length)
      (upstream : passage.upstream.Carries config.env initial
        (passage.edge.ends.relay.framed.sent.take passage.delivered))

variable {config allowed} {passage : Passage}

theorem carriedBy_grows {env : Env} {frames more : List Json} (h : frames <+: more) :
    carriedBy env frames <+: carriedBy env more := by
  obtain ⟨rest, rfl⟩ := h
  unfold carriedBy
  rw [List.filter_append, List.flatMap_append]
  exact List.prefix_append _ _

section

variable (h : passage.Passing config)
include h

theorem Passing.inOrder : passage.InOrder config := by
  cases h with
  | idle hedge hdelivered hupstream =>
    exact ⟨fun _ => by rw [hupstream], absurd hedge.sent⟩
  | streams route initial hedge hdelivered hupstream =>
    obtain ⟨chunks, closes, htraffic, hread, -⟩ := hedge.flows
    have hall : carriedBy config.env passage.edge.ends.relay.framed.sent =
        passage.edge.ends.client.read.flatten := by
      rw [htraffic.carriedBy config.env, hread]
    constructor
    · intro hsent
      rw [htraffic.frames_eq] at hsent
      simp at hsent
    · intro _
      refine ⟨initial, hedge.serialised, ?_, fun hconnected huncut hnext => ?_⟩
      · rw [← hall]
        exact hupstream.received.trans ((List.prefix_append_right_inj initial).2
          (carriedBy_grows (List.take_prefix _ _)))
      · have hend : passage.edge.ends.relay.framed.sent.length ≤ passage.delivered :=
          List.getElem?_eq_none_iff.1 hnext
        rw [hupstream.complete hconnected huncut, List.take_of_length_le hend, hall]

theorem Passing.edge {event : ServerEvent} (htimely : passage.edge.AcceptsServer config event) :
    Passing config { passage with edge := passage.edge.step config event } := by
  cases h with
  | idle hedge hdelivered hupstream =>
    rcases hedge.step event with hidle | ⟨route, initial, hstreams⟩
    · exact .idle hidle hdelivered hupstream
    · apply Passing.streams route initial hstreams
      · exact hdelivered ▸ Nat.zero_le _
      · rw [hdelivered, hupstream]
        exact Upstream.carries_new
  | streams route initial hedge hdelivered hupstream =>
    obtain ⟨hstreams, hgrows⟩ := hedge.step htimely
    apply Passing.streams route initial hstreams
    · exact hdelivered.trans hgrows.length_le
    · obtain ⟨rest, hrest⟩ := hgrows
      rw [← hrest, List.take_append_of_le_length hdelivered]
      exact hupstream

theorem Passing.deliver (htimely : passage.Timely config .deliver) :
    (passage.step config allowed .deliver).Passing config := by
  rw [step]
  cases hnext : passage.next? with
  | none => exact h
  | some frame =>
    cases h with
    | idle hedge hdelivered hupstream =>
      rw [next?, hedge.sent] at hnext
      cases hnext
    | streams route initial hedge hdelivered hupstream =>
      obtain ⟨hlt, hframe⟩ := List.getElem?_eq_some_iff.1 hnext
      obtain ⟨chunks, closes, htraffic, -, -⟩ := hedge.flows
      have hsplit : passage.edge.ends.relay.framed.sent =
          passage.edge.ends.relay.framed.sent.take passage.delivered ++
            frame :: passage.edge.ends.relay.framed.sent.drop (passage.delivered + 1) := by
        rw [← hframe, List.getElem_cons_drop, List.take_append_drop]
      have htake : passage.edge.ends.relay.framed.sent.take (passage.delivered + 1) =
          passage.edge.ends.relay.framed.sent.take passage.delivered ++ [frame] := by
        rw [List.take_add_one]
        simp [show passage.edge.ends.relay.framed.sent[passage.delivered]? = some frame from hnext]
      refine @Passing.streams config { passage with
        delivered := passage.delivered + 1
        upstream := passage.upstream.onFrame config.env allowed frame } route initial hedge
        hlt ?_
      · rw [htake]
        rcases htraffic.frame_cases hsplit with ⟨hnil, rfl⟩ | ⟨-, ⟨chunk, rfl⟩, hopen⟩ |
          ⟨-, hclose⟩
        · rw [hnil, List.nil_append, hupstream.new hnil]
          apply Upstream.carries_streamOpen (hasType_upgradeFrame _ _ _)
          rw [initialData_upgradeFrame, bufferFrom_encode]
        · have hother := Ends.not_open_of_data passage.edge.streamId chunk
          exact hupstream.data allowed (htimely _ hnext hother) hopen _ _
        · have hother : hasType frame "stream_open" = false :=
            hasType_other hclose _ (by decide)
          exact hupstream.close allowed (htimely _ hnext hother) hclose

theorem Passing.step {event : PassageEvent} (htimely : passage.Timely config event) :
    (passage.step config allowed event).Passing config := by
  cases event with
  | edge event => exact h.edge htimely
  | deliver => exact h.deliver htimely
  | service event =>
    cases h with
    | idle hedge hdelivered hupstream =>
      have hunopened : passage.upstream.onLocal config.env event = {} := by
        rw [hupstream]
        rfl
      exact .idle hedge hdelivered hunopened
    | streams route initial hedge hdelivered hupstream =>
      exact .streams route initial hedge hdelivered (hupstream.onLocal event)

end

/-- The upgrade has just arrived. -/
def start (config : Config) (request : Request) (httpVersion : String) (head : List UInt8)
    (streamId : String) : Passage :=
  { edge := .arrive config request httpVersion head streamId }

/-- In a timely run the service receives the request and the client's bytes in order, and
loses none. -/
theorem inOrder_run (config : Config) (allowed : Bool) (request : Request) (httpVersion : String)
    (head : List UInt8) (streamId : String) {events : List PassageEvent}
    (h : Along (step config allowed) (Timely config)
      (start config request httpVersion head streamId) events) :
    (run (step config allowed) (start config request httpVersion head streamId)
      events).InOrder config := by
  have hstart : (start config request httpVersion head streamId).Passing config :=
    .idle UpgradeSession.idle_arrive rfl rfl
  have hrun : (run (step config allowed) (start config request httpVersion head streamId)
      events).Passing config :=
    h.invariant (fun _ _ hpassing htimely => hpassing.step htimely) hstart
  exact hrun.inOrder

def openingEvents : List PassageEvent :=
  [.edge (.routeResolved (some allowAllRoute)), .edge (.decided OrdMap.empty),
    .edge (.socket .relayConnected), .deliver]

def timelyEvents : List PassageEvent :=
  openingEvents ++ [.service .connect, .edge (.socket (.clientData [104, 105])), .deliver]

def hastyEvents : List PassageEvent :=
  openingEvents ++ [.edge (.socket (.clientData [104, 105])), .deliver, .service .connect]

def hostedPassage (events : List PassageEvent) : Passage :=
  run (step plainConfig true) (start plainConfig hostedRequest "1.1" [] "s1") events

theorem timely_clientData {chunk : List UInt8} {streamId : String}
    (hid : passage.edge.streamId = streamId)
    (hsend : passage.edge.ends.CanSend config.env (streamDataFrame streamId chunk)) :
    passage.Timely config (.edge (.socket (.clientData chunk))) := by
  intro _ _
  rw [hid]
  exact hsend

theorem inOrder_run_timely : (hostedPassage timelyEvents).upstream.written.length = 2 ∧
    (hostedPassage timelyEvents).InOrder plainConfig := by
  refine ⟨by decide +kernel, inOrder_run plainConfig true hostedRequest "1.1" [] "s1" ?_⟩
  have hsend : (hostedPassage (openingEvents ++ [.service .connect])).edge.ends.CanSend
      plainConfig.env (streamDataFrame "s1" [104, 105]) :=
    ⟨by decide +kernel, by decide +kernel, FramedConnection.fits_plain (by decide +kernel)⟩
  have hid : (hostedPassage (openingEvents ++ [.service .connect])).edge.streamId = "s1" := by
    decide +kernel
  have hfirst : ¬ (hostedPassage (openingEvents.take 3)).upstream.Connecting := by decide +kernel
  have hsecond : ¬ (hostedPassage (openingEvents ++ [.service .connect] ++
      [.edge (.socket (.clientData [104, 105]))])).upstream.Connecting := by decide +kernel
  have htimely : timelyEvents = openingEvents.take 3 ++ [.deliver] ++ [.service .connect] ++
      [.edge (.socket (.clientData [104, 105]))] ++ [.deliver] := rfl
  have hopening : openingEvents = openingEvents.take 3 ++ [.deliver] := rfl
  rw [htimely, along_append, along_append, along_append, along_append, ← hopening]
  exact ⟨⟨⟨⟨⟨trivial, trivial, fun _ => trivial, trivial⟩, fun _ _ _ => hfirst, trivial⟩, trivial,
    trivial⟩, timely_clientData hid hsend, trivial⟩, fun _ _ _ => hsecond, trivial⟩

theorem method_requestHead {request : Request} {httpVersion path : String}
    {headers : FrameHeaders} :
    ∃ rest, requestHead request httpVersion path headers = utf8 request.method ++ rest := by
  unfold requestHead utf8
  simp only [String.append_assoc, String.intercalate_cons_append]
  rw [String.toList_append, List.flatMap_append]
  exact ⟨_, rfl⟩

theorem not_inOrder_hasty :
    ¬ ∀ events, (hostedPassage events).InOrder plainConfig := by
  intro h
  have hsent : (hostedPassage hastyEvents).edge.ends.relay.framed.sent ≠ [] := by decide +kernel
  have hfirst : (hostedPassage hastyEvents).upstream.written.flatten.head? = some 104 := by
    decide +kernel
  have hmethod : (hostedPassage hastyEvents).edge.request.method = "GET" := by decide +kernel
  obtain ⟨initial, ⟨decision, -, hinitial⟩, ⟨rest, hrest⟩, -⟩ := (h hastyEvents).received hsent
  obtain ⟨tail, htail⟩ := method_requestHead
  have hget : utf8 "GET" = [71, 69, 84] := by decide +kernel
  rw [hinitial, UpgradeSession.initial, htail, hmethod, hget] at hrest
  have hhead := congrArg List.head? hrest
  rw [List.head?_append, hfirst] at hhead
  simp at hhead

end Passage

end Tunnara.Agent
