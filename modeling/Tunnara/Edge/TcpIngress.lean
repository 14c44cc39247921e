/-
# The TCP ingress

`TcpIngressManager.#handleClient`: one stream for each client. The chunks of the
client wait in `queued` until the agent has opened the stream; its end is passed on
at once. So a client that ends its side while chunks wait has its stream closed
before its bytes are sent.

Until the Relay is connected the client's socket has no `'data'` listener, so it
hands out nothing; it may end, close or fail unheard.
-/

import Tunnara.Data.Transition
import Tunnara.Edge.Sockets

namespace Tunnara.Edge

open Relay Transition

inductive TcpPhase
  /-- `#connectRelay` is awaited. -/
  | connecting
  | running
  /-- The `catch` block has run. -/
  | failed

/-- A call of `#handleClient`. -/
structure TcpSession where
  phase : TcpPhase := .connecting
  streamId : String
  (tunnelId targetId : Option Json)
  opened : Bool := false
  queued : List (List UInt8) := []
  ends : Ends := {}

namespace TcpSession

variable (env : Env)

def openingFrame (session : TcpSession) : Json :=
  frameOf [("type", text "stream_open"), ("streamId", text session.streamId),
    ("tunnelId", session.tunnelId), ("targetId", some (orDefault session.targetId .null)),
    ("initialDataBase64", text "")]

/-- The `catch` block. -/
def fail (session : TcpSession) : TcpSession :=
  { session with phase := .failed, ends := (session.ends.destroyClient true).destroyRelay }

/-- `#handleClient` after the connection to the Relay. -/
def connected (session : TcpSession) : TcpSession :=
  let ends := { session.ends with relay := {} }
  match ends.send env true session.openingFrame with
  | .error _ => { session with ends }.fail
  | .ok ends => { session with phase := .running, ends := ends.listen }

/-- Send the chunks that waited, up to the first that throws. -/
def flush (streamId : String) : List (List UInt8) → Ends → Ends
  | [], ends => ends
  | chunk :: rest, ends =>
    match ends.send env true (streamDataFrame streamId chunk) with
    | .error _ => ends
    | .ok next => flush streamId rest next

/-- The `'frame'` listener. What it throws becomes a `'protocolError'`, which nobody hears. -/
def onFrame (session : TcpSession) (frame : Json) : TcpSession :=
  if frame = .null ∨ frame.get? "streamId" ≠ text session.streamId then session
  else if hasType frame "stream_opened" then
    { session with
      opened := true
      queued := []
      ends := flush env session.streamId session.queued session.ends }
  else if hasType frame "stream_data" then
    match bufferFrom env (frame.get? "dataBase64") with
    | .error _ => session
    | .ok data => { session with ends := session.ends.writeClient data }
  else if hasType frame "stream_close" then
    { session with ends := session.ends.endClient.closeRelay }
  else session

def onSignal (session : TcpSession) : Signal → TcpSession
  | .frame frame => session.onFrame env frame
  | .malformed => session
  | .invalidLength => { session with ends := session.ends.failRelay true }

/-- The `'data'` listener of the connection to the Relay. -/
def onRelayData (session : TcpSession) (chunk : List UInt8) : TcpSession :=
  let read := drain env.codec (session.ends.relay.framed.buffer ++ chunk)
  run (onSignal env) { session with ends.relay.framed.buffer := read.2 } read.1

/-- The `'data'` listener of the client's socket. -/
def onClientData (session : TcpSession) (chunk : List UInt8) : TcpSession :=
  let ends := { session.ends with client.read := session.ends.client.read ++ [chunk] }
  if session.opened then
    { session with
      ends := ends.listener (ends.send env true (streamDataFrame session.streamId chunk)) }
  else { session with queued := session.queued ++ [chunk], ends }

/-- `relay.send({ type: 'stream_close', … })`. -/
def sendClose (session : TcpSession) (reason : String) (ends : Ends) : Except JsError Ends :=
  ends.send env true (streamCloseFrame session.streamId reason)

def onClientEnd (session : TcpSession) : TcpSession :=
  { session with ends := session.ends.listener (session.sendClose env "client_end" session.ends) }

def onClientClose (session : TcpSession) : TcpSession :=
  { session with
    ends := session.ends.listener ((session.sendClose env "client_close" session.ends).map
      Ends.closeRelay) }

/-- The listeners of a running session; an event that cannot occur changes nothing. -/
def handleRunning (session : TcpSession) : SocketEvent → TcpSession
  | .relayConnected => session
  | .relayFailed => { session with ends := session.ends.relaySocketFails true }
  | .relayData chunk =>
    if session.ends.relay.framed.destroyed then session else session.onRelayData env chunk
  | .relayEnd =>
    if session.ends.relay.framed.destroyed then session
    else { session with ends.relay.framed.ended := true }
  | .relayClose =>
    if session.ends.relay.gone then session
    else { session with ends := session.ends.relayCloses }
  | .clientData chunk =>
    if session.ends.client.destroyed ∨ session.ends.client.finished then session
    else session.onClientData env chunk
  | .clientEnd =>
    if session.ends.client.destroyed ∨ session.ends.client.finished then session
    else { session with ends.client := { session.ends.client with
      finished := true, ended := true } }.onClientEnd env
  | .clientClose =>
    if session.ends.client.gone then session
    else { session with ends.client := { session.ends.client with
      gone := true, destroyed := true } }.onClientClose env
  | .clientFailed => { session with ends := session.ends.clientSocketFails }

/-- What can happen to a client's socket that nobody listens to. -/
def handleAlone (session : TcpSession) : SocketEvent → TcpSession
  | .clientEnd =>
    if session.ends.client.destroyed then session
    else { session with ends.client := { session.ends.client with
      finished := true, ended := true } }
  | .clientClose =>
    { session with ends.client := { session.ends.client with gone := true, destroyed := true } }
  | .clientFailed => { session with ends := session.ends.clientSocketFails }
  | _ => session

def handle (session : TcpSession) (event : SocketEvent) : TcpSession :=
  match session.phase, event with
  | .running, event => session.handleRunning env event
  | .connecting, .relayConnected => session.connected env
  | .connecting, .relayFailed => session.fail
  | _, event => session.handleAlone event

/-- Nothing happens in a process that has ended. -/
def step (session : TcpSession) (event : SocketEvent) : TcpSession :=
  if session.ends.Crashed then session else session.handle env event

/-! ## What the stream carries -/

/-- Once the stream is open it carries the bytes of the client, and none after its close. -/
structure KeepsBytes (session : TcpSession) : Prop where
  bytes : session.opened = true →
    carriedBy env session.ends.relay.framed.sent = session.ends.client.read.flatten
  order : ClosedLast session.ends.relay.framed.sent

/-- The client has ended its side or its socket is destroyed. -/
def Done (session : TcpSession) : Prop :=
  session.ends.client.finished = true ∨ session.ends.client.destroyed = true

/-- The chunks were sent in order, but for those that wait for the opening. -/
structure Orderly (session : TcpSession) : Prop where
  waiting : session.opened = true → session.queued = []
  connecting : session.phase = .connecting → session.ends.client.read = [] ∧ session.queued = []
  sent : ∃ openings chunks closes,
    Traffic session.streamId session.ends.relay.framed.sent openings chunks closes ∧
      session.ends.client.read = chunks ++ session.queued ∧
      (closes ≠ [] → session.queued = [] ∧ session.Done)

variable {env} {session : TcpSession}

theorem Orderly.keepsBytes (h : session.Orderly) : session.KeepsBytes env := by
  obtain ⟨openings, chunks, closes, htraffic, hread, -⟩ := h.sent
  refine ⟨fun hopened => ?_, htraffic.closedLast⟩
  rw [htraffic.carriedBy env, hread, h.waiting hopened, List.append_nil]

theorem orderly_new {streamId : String} {tunnelId targetId : Option Json} :
    Orderly { streamId, tunnelId, targetId } :=
  ⟨fun _ => rfl, fun _ => ⟨rfl, rfl⟩, [], [], [], Traffic.nil, rfl, nofun⟩

theorem Done.still {next : Ends} (h : session.Done) (hstill : session.ends.Still next) :
    Done { session with ends := next } := by
  rcases h with hfinished | hdestroyed
  · exact .inl (hstill.finished hfinished)
  · exact .inr (hstill.destroyed hdestroyed)

theorem Orderly.still {next : Ends} (h : session.Orderly) (hstill : session.ends.Still next) :
    Orderly { session with ends := next } := by
  obtain ⟨openings, chunks, closes, htraffic, hread, hdone⟩ := h.sent
  refine ⟨h.waiting, ?_, openings, chunks, closes, ?_, ?_, ?_⟩
  · intro hphase
    exact ⟨hstill.read.trans (h.connecting hphase).1, (h.connecting hphase).2⟩
  · rw [hstill.sent]
    exact htraffic
  · exact hstill.read.trans hread
  · intro hcloses
    exact ⟨(hdone hcloses).1, (hdone hcloses).2.still hstill⟩

theorem Orderly.setPhase {phase : TcpPhase} (h : session.Orderly) (hphase : phase ≠ .connecting) :
    Orderly { session with phase } :=
  ⟨h.waiting, fun hconnecting => absurd hconnecting hphase, h.sent⟩

/-! ## The client waits for its stream -/

/-- The stream is opened while the chunks that wait can be sent. -/
def OpensInTime (env : Env) (session : TcpSession) (signal : Signal) : Prop :=
  ∀ frame, signal = .frame frame → frame.get? "streamId" = text session.streamId →
    hasType frame "stream_opened" = true → ∀ chunk ∈ session.queued,
      session.ends.CanSend env (streamDataFrame session.streamId chunk)

/-- No close is sent while chunks wait. -/
def EndsInTime (env : Env) (session : TcpSession) (reason : String) : Prop :=
  session.queued ≠ [] → ¬ session.ends.CanSend env (streamCloseFrame session.streamId reason)

/-- Chunks can be sent when they come, and the client ends after the last one was sent. -/
def Patient (env : Env) (session : TcpSession) : SocketEvent → Prop
  | .clientData chunk => session.opened = true →
      session.ends.CanSend env (streamDataFrame session.streamId chunk)
  | .clientEnd => session.EndsInTime env "client_end"
  | .clientClose => session.EndsInTime env "client_close"
  | .relayData chunk =>
    Along (onSignal env) (OpensInTime env) { session with
      ends.relay.framed.buffer := (drain env.codec
        (session.ends.relay.framed.buffer ++ chunk)).2 }
      (drain env.codec (session.ends.relay.framed.buffer ++ chunk)).1
  | _ => True

theorem Orderly.fail (h : session.Orderly) : Orderly session.fail := by
  have hended : session.ends.Still (session.ends.destroyClient true).destroyRelay :=
    Ends.still_destroyClient.trans Ends.still_destroyRelay
  have hsession := h.still hended
  exact ⟨hsession.waiting, nofun, hsession.sent⟩

theorem hasType_openingFrame {session : TcpSession} :
    hasType session.openingFrame "stream_open" = true := rfl

theorem Orderly.connected (h : session.Orderly) (hphase : session.phase = .connecting) :
    Orderly (session.connected env) := by
  obtain ⟨hread, hqueued⟩ := h.connecting hphase
  have hfresh : Orderly { session with ends.relay := {} } :=
    ⟨h.waiting, fun _ => ⟨hread, hqueued⟩, [], [], [], Traffic.nil, by simp [hread, hqueued], nofun⟩
  unfold TcpSession.connected
  dsimp only
  cases hsend : ({ session.ends with relay := {} } : Ends).send env true session.openingFrame with
  | error error => exact hfresh.fail
  | ok next =>
    have hlisten : next.Still next.listen := ⟨rfl, rfl, id, id⟩
    have hnext : Orderly { session with ends := next } := by
      rcases Ends.send_cases hsend with ⟨-, rfl⟩ | hstill
      · have hother : ∀ type, type ≠ "stream_open" →
            hasType session.openingFrame type = false :=
          hasType_other hasType_openingFrame
        refine ⟨h.waiting, fun _ => ⟨hread, hqueued⟩, [session.openingFrame], [], [],
          ⟨rfl, ?_, by simp⟩, ?_, nofun⟩
        · intro frame hframe
          rw [List.mem_singleton.1 hframe]
          exact ⟨hother _ (by decide), hother _ (by decide)⟩
        · rw [hqueued]
          exact hread
      · exact hfresh.still hstill
    exact (hnext.still hlisten).setPhase nofun

variable {chunk : List UInt8}

section

variable (h : session.Orderly)
include h

theorem Orderly.wrote_data {rest : List (List UInt8)} (hphase : session.phase = .running)
    (hqueued : session.queued = chunk :: rest) :
    Orderly { session with
      queued := rest
      ends := session.ends.wrote (streamDataFrame session.streamId chunk) } := by
  obtain ⟨openings, chunks, closes, htraffic, hread, hdone⟩ := h.sent
  have hnone : closes = [] := by
    by_contra hcloses
    rw [(hdone hcloses).1] at hqueued
    cases hqueued
  subst hnone
  refine ⟨fun hopened => ?_, fun hconnecting => ?_, openings, chunks ++ [chunk], [],
    htraffic.data chunk, ?_, nofun⟩
  · rw [h.waiting hopened] at hqueued
    cases hqueued
  · rw [hphase] at hconnecting
    cases hconnecting
  · show session.ends.client.read = chunks ++ [chunk] ++ rest
    rw [hread, hqueued, List.append_assoc, List.singleton_append]

omit h in
theorem Orderly.flush {session : TcpSession} (h : session.Orderly)
    (hphase : session.phase = .running) (hcan : ∀ chunk ∈ session.queued,
      session.ends.CanSend env (streamDataFrame session.streamId chunk)) :
    Orderly { session with
      opened := true
      queued := []
      ends := TcpSession.flush env session.streamId session.queued session.ends } := by
  generalize hqueued : session.queued = queued at hcan ⊢
  induction queued generalizing session with
  | nil =>
    obtain ⟨openings, chunks, closes, htraffic, hread, hdone⟩ := h.sent
    rw [hqueued] at hread
    refine ⟨fun _ => rfl, fun hconnecting => ?_, openings, chunks, closes, htraffic, hread,
      fun hcloses => ⟨rfl, (hdone hcloses).2⟩⟩
    rw [hphase] at hconnecting
    cases hconnecting
  | cons chunk rest ih =>
    have hnext := h.wrote_data hphase hqueued
    have hsend : session.ends.send env true (streamDataFrame session.streamId chunk) =
        .ok (session.ends.wrote (streamDataFrame session.streamId chunk)) :=
      (hcan chunk List.mem_cons_self).send
    have hrest : ∀ other ∈ rest, (session.ends.wrote
        (streamDataFrame session.streamId chunk)).CanSend env
        (streamDataFrame session.streamId other) := by
      intro other hother
      have hold := hcan other (List.mem_cons_of_mem _ hother)
      exact ⟨hold.unclosed, hold.unended, hold.fits⟩
    rw [TcpSession.flush, hsend]
    exact ih hnext hphase rfl hrest

section

variable (hphase : session.phase = .running)
include hphase

theorem Orderly.sendClose (hdone : session.Done) {reason : String}
    (hin : session.EndsInTime env reason) {next : Ends}
    (hsend : session.sendClose env reason session.ends = .ok next) :
    Orderly { session with ends := next } := by
  rcases Ends.send_cases hsend with ⟨hcan, rfl⟩ | hstill
  · have hqueued : session.queued = [] := by
      by_contra hwaiting
      exact hin hwaiting hcan
    obtain ⟨openings, chunks, closes, htraffic, hread, -⟩ := h.sent
    refine ⟨h.waiting, fun hconnecting => ?_, openings, chunks, _,
      htraffic.close hasType_streamCloseFrame, hread, fun _ => ⟨hqueued, hdone⟩⟩
    rw [hphase] at hconnecting
    cases hconnecting
  · exact h.still hstill

theorem Orderly.onClientEnd (hdone : session.Done) (hin : session.EndsInTime env "client_end") :
    Orderly (session.onClientEnd env) := by
  unfold TcpSession.onClientEnd
  cases hsend : session.sendClose env "client_end" session.ends with
  | error error => exact h.still Ends.still_raise
  | ok next => exact h.sendClose hphase hdone hin hsend

theorem Orderly.onClientClose (hdone : session.Done) (hin : session.EndsInTime env "client_close") :
    Orderly (session.onClientClose env) := by
  unfold TcpSession.onClientClose
  cases hsend : session.sendClose env "client_close" session.ends with
  | error error => exact h.still Ends.still_raise
  | ok next => exact (h.sendClose hphase hdone hin hsend).still Ends.still_closeRelay

theorem Orderly.onClientData (hundone : ¬ session.Done)
    (hpatient : session.Patient env (.clientData chunk)) :
    Orderly (session.onClientData env chunk) := by
  obtain ⟨openings, chunks, closes, htraffic, hread, hdone⟩ := h.sent
  have hnone : closes = [] := by
    by_contra hcloses
    exact hundone (hdone hcloses).2
  subst hnone
  have hrunning : session.phase ≠ .connecting := hphase.trans_ne nofun
  unfold TcpSession.onClientData
  dsimp only
  split_ifs with hopened
  · have hcan : ({ session.ends with client.read := session.ends.client.read ++ [chunk] } :
        Ends).CanSend env (streamDataFrame session.streamId chunk) :=
      ⟨(hpatient hopened).unclosed, (hpatient hopened).unended, (hpatient hopened).fits⟩
    rw [hcan.send]
    refine ⟨h.waiting, fun hconnecting => absurd hconnecting hrunning, openings,
      chunks ++ [chunk], [], htraffic.data chunk, ?_, nofun⟩
    show session.ends.client.read ++ [chunk] = chunks ++ [chunk] ++ session.queued
    rw [hread, h.waiting hopened, List.append_nil, List.append_nil]
  · refine ⟨fun hopen => absurd hopen hopened, fun hconnecting => absurd hconnecting hrunning,
      openings, chunks, [], htraffic, ?_, nofun⟩
    rw [hread, List.append_assoc]

theorem Orderly.onFrame {frame : Json} (hin : session.OpensInTime env (.frame frame)) :
    Orderly (session.onFrame env frame) := by
  unfold TcpSession.onFrame
  split_ifs with hother hopened hdata hclose
  · exact h
  · rw [not_or, not_not] at hother
    exact h.flush hphase (hin frame rfl hother.2 hopened)
  · cases bufferFrom env (frame.get? "dataBase64") with
    | error error => exact h
    | ok data => exact h.still Ends.still_writeClient
  · exact h.still (Ends.still_endClient.trans Ends.still_closeRelay)
  · exact h

end

omit h in
theorem phase_onFrame {frame : Json} : (session.onFrame env frame).phase = session.phase := by
  unfold TcpSession.onFrame
  split_ifs
  · rfl
  · rfl
  · split <;> rfl
  · rfl
  · rfl

theorem Orderly.onSignal (hphase : session.phase = .running) {signal : Signal}
    (hin : session.OpensInTime env signal) : Orderly (session.onSignal env signal) := by
  cases signal with
  | frame frame => exact h.onFrame hphase hin
  | malformed => exact h
  | invalidLength => exact h.still Ends.still_failRelay

omit h in
theorem phase_onSignal {signal : Signal} : (session.onSignal env signal).phase = session.phase := by
  cases signal with
  | frame frame => exact phase_onFrame
  | malformed | invalidLength => rfl

theorem Orderly.onRelayData (hphase : session.phase = .running)
    (hpatient : session.Patient env (.relayData chunk)) :
    Orderly (session.onRelayData env chunk) := by
  have hstart : Orderly { session with ends.relay.framed.buffer := (drain env.codec
      (session.ends.relay.framed.buffer ++ chunk)).2 } := h.still ⟨rfl, rfl, id, id⟩
  have hstep : ∀ (session : TcpSession) (signal : Signal),
      session.Orderly ∧ session.phase = .running → session.OpensInTime env signal →
        (session.onSignal env signal).Orderly ∧ (session.onSignal env signal).phase = .running :=
    fun session signal hsession hin =>
      ⟨hsession.1.onSignal hsession.2 hin, phase_onSignal.trans hsession.2⟩
  exact (Along.invariant hstep hpatient ⟨hstart, hphase⟩).1

theorem Orderly.handleRunning (hphase : session.phase = .running) {event : SocketEvent}
    (hpatient : session.Patient env event) : Orderly (session.handleRunning env event) := by
  cases event with
  | relayConnected => exact h
  | relayFailed => exact h.still Ends.still_relaySocketFails
  | relayData chunk =>
    rw [TcpSession.handleRunning]
    split_ifs
    · exact h
    · exact h.onRelayData hphase hpatient
  | relayEnd =>
    rw [TcpSession.handleRunning]
    split_ifs
    · exact h
    · exact h.still ⟨rfl, rfl, id, id⟩
  | relayClose =>
    rw [TcpSession.handleRunning]
    split_ifs
    · exact h
    · exact h.still Ends.still_relayCloses
  | clientData chunk =>
    rw [TcpSession.handleRunning]
    split_ifs with hdone
    · exact h
    · exact h.onClientData hphase (fun hended => hdone hended.symm) hpatient
  | clientEnd =>
    rw [TcpSession.handleRunning]
    split_ifs with hdone
    · exact h
    · have hmarked : session.ends.Still { session.ends with client := { session.ends.client with
          finished := true, ended := true } } := ⟨rfl, rfl, fun _ => rfl, id⟩
      exact (h.still hmarked).onClientEnd hphase (.inl rfl) fun hwaiting hcan =>
        hpatient hwaiting ⟨hcan.unclosed, hcan.unended, hcan.fits⟩
  | clientClose =>
    rw [TcpSession.handleRunning]
    split_ifs
    · exact h
    · have hmarked : session.ends.Still { session.ends with client := { session.ends.client with
          gone := true, destroyed := true } } := ⟨rfl, rfl, id, fun _ => rfl⟩
      exact (h.still hmarked).onClientClose hphase (.inr rfl) fun hwaiting hcan =>
        hpatient hwaiting ⟨hcan.unclosed, hcan.unended, hcan.fits⟩
  | clientFailed => exact h.still Ends.still_clientSocketFails

theorem Orderly.handleAlone (event : SocketEvent) : Orderly (session.handleAlone event) := by
  cases event with
  | clientEnd =>
    rw [TcpSession.handleAlone]
    split_ifs
    · exact h
    · exact h.still ⟨rfl, rfl, fun _ => rfl, id⟩
  | clientClose => exact h.still ⟨rfl, rfl, id, fun _ => rfl⟩
  | clientFailed => exact h.still Ends.still_clientSocketFails
  | _ => exact h

theorem Orderly.step {event : SocketEvent} (hpatient : session.Patient env event) :
    Orderly (session.step env event) := by
  unfold TcpSession.step
  split_ifs
  · exact h
  cases hphase : session.phase with
  | running =>
    simp only [handle, hphase]
    exact h.handleRunning hphase hpatient
  | failed =>
    simp only [handle, hphase]
    exact h.handleAlone event
  | connecting =>
    cases event with
    | relayConnected =>
      simp only [handle, hphase]
      exact h.connected hphase
    | relayFailed =>
      simp only [handle, hphase]
      exact h.fail
    | _ =>
      simp only [handle, hphase]
      exact h.handleAlone _

end

/-- In a run in which no chunk waits when the client ends, and every chunk can be sent,
the stream keeps the bytes of the client in every state. -/
theorem keepsBytes_run (streamId : String) (tunnelId targetId : Option Json)
    (events : List SocketEvent)
    (hpatient : Along (step env) (Patient env) { streamId, tunnelId, targetId } events) :
    (run (step env) { streamId, tunnelId, targetId } events).KeepsBytes env := by
  have hstep : ∀ (session : TcpSession) (event : SocketEvent), session.Orderly →
      session.Patient env event → (session.step env event).Orderly :=
    fun _ _ hsession hguard => hsession.step hguard
  exact (hpatient.invariant hstep orderly_new).keepsBytes

def openedFrame : Json := .obj [("type", .str "stream_opened"), ("streamId", .str "s1")]

def workedEnv : Env := .plain [openedFrame]

def workedSession : TcpSession := { streamId := "s1", tunnelId := text "d1", targetId := text "g1" }

def patientRun : List SocketEvent :=
  [.relayConnected, .clientData [104, 105], .relayData (Codec.wire openedFrame), .clientEnd]

def hastyRun : List SocketEvent :=
  [.relayConnected, .clientData [104, 105], .clientEnd, .relayData (Codec.wire openedFrame)]

theorem keepsBytes_run_patient :
    (run (step workedEnv) workedSession patientRun).KeepsBytes workedEnv := by
  let waiting := run (step workedEnv) workedSession [.relayConnected, .clientData [104, 105]]
  have hdrain : drain workedEnv.codec (waiting.ends.relay.framed.buffer ++ Codec.wire openedFrame) =
      ([.frame openedFrame], []) := by
    decide +kernel
  have hqueued : waiting.queued = [[104, 105]] := by decide +kernel
  have hcan : waiting.ends.CanSend workedEnv (streamDataFrame "s1" [104, 105]) :=
    ⟨by decide +kernel, by decide +kernel, FramedConnection.fits_plain (by decide +kernel)⟩
  have hopens : waiting.Patient workedEnv (.relayData (Codec.wire openedFrame)) := by
    rw [Patient, hdrain]
    refine ⟨fun _ _ _ _ chunk hchunk => ?_, trivial⟩
    have hmem : chunk ∈ waiting.queued := hchunk
    rw [hqueued, List.mem_singleton] at hmem
    rw [hmem]
    exact ⟨hcan.unclosed, hcan.unended, hcan.fits⟩
  have hended : (run (step workedEnv) workedSession [.relayConnected, .clientData [104, 105],
      .relayData (Codec.wire openedFrame)]).queued = [] := by
    decide +kernel
  apply keepsBytes_run "s1" (text "d1") (text "g1") patientRun
  exact ⟨trivial, nofun, hopens, absurd hended, trivial⟩

/-- The bytes of the client follow the close of its stream. -/
theorem not_keepsBytes_hasty :
    (run (step workedEnv) workedSession hastyRun).opened = true ∧
      ¬ (run (step workedEnv) workedSession hastyRun).KeepsBytes workedEnv := by
  have hsent : (run (step workedEnv) workedSession hastyRun).ends.relay.framed.sent =
      [workedSession.openingFrame, streamCloseFrame "s1" "client_end",
        streamDataFrame "s1" [104, 105]] := by
    decide +kernel
  refine ⟨by decide +kernel, fun h => ?_⟩
  have hnone := h.order [workedSession.openingFrame] _ _ hsent rfl _ List.mem_cons_self
  cases hnone

end TcpSession

end Tunnara.Edge
