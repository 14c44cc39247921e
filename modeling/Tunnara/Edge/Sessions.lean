/-
# What a running session does

Everything the listeners of a session do to its two ends is composed of five moves:
fields are touched that no listener waits for, a listener throws, either end emits
`'error'`, or a frame is written that opens nothing. The phase of a session and what
it was called with stay.
-/

import Tunnara.Edge.Server
import Tunnara.Edge.TcpIngress

namespace Tunnara.Edge

open Relay Transition

variable (streamId : String) (chunk : List UInt8)

namespace Ends

inductive Works (passes : Bool) (throws : Prop) : Ends → Ends → Prop
  | touched {ends next : Ends} (faults : next.faults = ends.faults)
      (client : next.client.heard = ends.client.heard)
      (relay : next.relay.heard = ends.relay.heard)
      (sent : next.relay.framed.sent = ends.relay.framed.sent) : Works passes throws ends next
  | thrown (ends : Ends) (error : JsError) (hthrows : throws) :
      Works passes throws ends (ends.raise (.uncaughtException error))
  | clientEmits (ends : Ends) : Works passes throws ends ends.clientEmits
  | relayEmits (ends : Ends) : Works passes throws ends (ends.relayEmits passes)
  | wrote (ends : Ends) {payload : Json} (hpayload : hasType payload "stream_open" = false) :
      Works passes throws ends (ends.wrote payload)
  | trans {ends next last : Ends} (first : Works passes throws ends next)
      (second : Works passes throws next last) : Works passes throws ends last

variable {env : Env} {passes : Bool} {throws : Prop} {ends next : Ends}

theorem Works.refl (ends : Ends) : Works passes throws ends ends := .touched rfl rfl rfl rfl

theorem works_destroyRelay : Works passes throws ends ends.destroyRelay := .touched rfl rfl rfl rfl

theorem works_endClient : Works passes throws ends ends.endClient := .touched rfl rfl rfl rfl

theorem works_closeRelay : Works passes throws ends ends.closeRelay :=
  .touched rfl rfl rfl still_closeRelay.sent

theorem works_destroyClient {passed : Bool} : Works passes throws ends (ends.destroyClient passed) := by
  have hmarked : Works passes throws ends { ends with client.destroyed := true } :=
    .touched rfl rfl rfl rfl
  unfold destroyClient
  split_ifs
  · exact .refl ends
  · exact hmarked.trans (.clientEmits _)
  · exact hmarked

theorem works_writeClient {data : List UInt8} : Works passes throws ends (ends.writeClient data) := by
  have hmarked : Works passes throws ends { ends with client.destroyed := true } :=
    .touched rfl rfl rfl rfl
  unfold writeClient
  split_ifs
  · exact .refl ends
  · exact hmarked.trans (.clientEmits _)
  · exact .touched rfl rfl rfl rfl

theorem works_failRelay : Works passes throws ends (ends.failRelay passes) := by
  have hmarked : Works passes throws ends
      { ends with relay.framed := ends.relay.framed.destroy.connection } := .touched rfl rfl rfl rfl
  unfold failRelay
  dsimp only
  split_ifs
  · exact hmarked.trans (.relayEmits _)
  · exact hmarked

theorem works_relaySocketFails : Works passes throws ends (ends.relaySocketFails passes) := by
  have hmarked : Works passes throws ends { ends with relay.framed.destroyed := true } :=
    .touched rfl rfl rfl rfl
  unfold relaySocketFails
  split_ifs
  · exact .refl ends
  · exact hmarked.trans (.relayEmits _)

theorem works_clientSocketFails : Works passes throws ends ends.clientSocketFails := by
  have hmarked : Works passes throws ends { ends with client.destroyed := true } :=
    .touched rfl rfl rfl rfl
  unfold clientSocketFails
  split_ifs
  · exact .refl ends
  · exact hmarked.trans (.clientEmits _)

theorem works_relayCloses : Works passes throws ends ends.relayCloses := by
  have hmarked : Works passes throws ends { ends with relay := { ends.relay with
      gone := true, framed.closed := true, framed.destroyed := true } } := .touched rfl rfl rfl rfl
  exact hmarked.trans works_destroyClient

variable {payload : Json}

theorem works_send (hpayload : hasType payload "stream_open" = false)
    (h : ends.send env passes payload = .ok next) : Works passes throws ends next := by
  obtain ⟨effect, hsend, h⟩ := bind_eq_ok.1 h
  cases h
  rcases FramedConnection.send_cases hsend with ⟨-, rfl⟩ | ⟨-, -, -, rfl⟩ | ⟨-, -, -, rfl⟩
  · exact .refl ends
  · have hmarked : Works passes throws ends { ends with
        relay.framed := { ends.relay.framed with destroyed := true } } := .touched rfl rfl rfl rfl
    exact hmarked.trans (.relayEmits _)
  · exact .wrote ends hpayload

/-- The frame is too long, or it cannot be written down, and the connection would take one. -/
def Unwritable (env : Env) (ends : Ends) (payload : Json) : Prop :=
  ends.relay.framed.silent = false ∧ ¬ FramedConnection.Fits env.codec payload

theorem send_error_iff :
    (∃ error, ends.send env passes payload = .error error) ↔ ends.Unwritable env payload := by
  unfold send FramedConnection.send Unwritable FramedConnection.Fits
  cases ends.relay.framed.silent with
  | true => simp [bind, Except.bind, pure, Except.pure]
  | false =>
    cases FramedConnection.encode env.codec payload with
    | error error => simp [bind, Except.bind]
    | ok data => cases ends.relay.framed.ended <;> simp [bind, Except.bind, pure, Except.pure]

theorem send_fresh {payload : Json} (hrelay : ends.relay = {}) :
    (FramedConnection.Fits env.codec payload →
        ends.send env passes payload = .ok (ends.wrote payload)) ∧
      (¬ FramedConnection.Fits env.codec payload →
        ∃ error, ends.send env passes payload = .error error) := by
  have hsilent : ends.relay.framed.silent = false := by rw [hrelay]; rfl
  have hunended : ends.relay.framed.ended = false := by rw [hrelay]
  exact ⟨fun hfits => CanSend.send ⟨hsilent, hunended, hfits⟩,
    fun hfits => send_error_iff.2 ⟨hsilent, hfits⟩⟩

theorem works_listener {result : Except JsError Ends}
    (hok : ∀ next, result = .ok next → Works passes throws ends next)
    (herror : ∀ error, result = .error error → throws) :
    Works passes throws ends (ends.listener result) := by
  cases result with
  | ok next => exact hok next rfl
  | error error => exact .thrown ends error (herror error rfl)

theorem not_open_of_data : hasType (streamDataFrame streamId chunk) "stream_open" = false :=
  hasType_other (hasType_streamDataFrame streamId chunk) _ (by decide)

theorem not_open_of_close {reason : String} :
    hasType (streamCloseFrame streamId reason) "stream_open" = false :=
  hasType_other hasType_streamCloseFrame _ (by decide)

theorem works_sending (hpayload : hasType payload "stream_open" = false)
    (hthrows : ends.Unwritable env payload → throws) :
    Works passes throws ends (ends.listener (ends.send env passes payload)) :=
  works_listener (fun _ hsend => works_send hpayload hsend)
    fun error hsend => hthrows (send_error_iff.1 ⟨error, hsend⟩)

theorem works_closing (hpayload : hasType payload "stream_open" = false)
    (hthrows : ends.Unwritable env payload → throws) :
    Works passes throws ends
      (ends.listener ((ends.send env passes payload).map closeRelay)) := by
  cases hsend : ends.send env passes payload with
  | ok next => exact (works_send hpayload hsend).trans works_closeRelay
  | error error => exact .thrown ends error (hthrows (send_error_iff.1 ⟨error, hsend⟩))

end Ends

namespace TcpSession

/-- The frame that a listener of the client's socket sends. -/
def sends (session : TcpSession) : SocketEvent → Option Json
  | .clientData chunk =>
    if (session.ends.client.destroyed ∨ session.ends.client.finished) ∨ ¬ session.opened then none
    else some (streamDataFrame session.streamId chunk)
  | .clientEnd =>
    if session.ends.client.destroyed ∨ session.ends.client.finished then none
    else some (streamCloseFrame session.streamId "client_end")
  | .clientClose =>
    if session.ends.client.gone then none
    else some (streamCloseFrame session.streamId "client_close")
  | _ => none

/-- A listener throws: its frame cannot be written. -/
def Throws (env : Env) (session : TcpSession) (event : SocketEvent) : Prop :=
  ∃ payload, session.sends event = some payload ∧ session.ends.Unwritable env payload

/-- The phase and the stream stay, and the ends work. -/
structure Continues (env : Env) (throws : Prop) (before after : TcpSession) : Prop where
  phase : after.phase = before.phase
  streamId : after.streamId = before.streamId
  ends : before.ends.Works true throws after.ends

variable {env : Env} {throws : Prop} {session next : TcpSession}

theorem Continues.refl (session : TcpSession) : session.Continues env throws session :=
  ⟨rfl, rfl, .refl _⟩

theorem Continues.trans {last : TcpSession} (h : session.Continues env throws next)
    (h' : next.Continues env throws last) : session.Continues env throws last :=
  ⟨h'.phase.trans h.phase, h'.streamId.trans h.streamId, h.ends.trans h'.ends⟩

theorem works_flush (chunks : List (List UInt8)) (ends : Ends) :
    ends.Works true throws (flush env streamId chunks ends) := by
  induction chunks generalizing ends with
  | nil => exact .refl ends
  | cons chunk rest ih =>
    unfold flush
    cases hsend : ends.send env true (streamDataFrame streamId chunk) with
    | error error => exact .refl ends
    | ok next => exact (Ends.works_send (Ends.not_open_of_data _ _) hsend).trans (ih next)

theorem continues_onFrame (frame : Json) : session.Continues env throws (session.onFrame env frame) := by
  unfold onFrame
  split_ifs
  · exact .refl session
  · exact ⟨rfl, rfl, works_flush _ _ _⟩
  · split
    · exact .refl session
    · exact ⟨rfl, rfl, Ends.works_writeClient⟩
  · exact ⟨rfl, rfl, Ends.works_endClient.trans Ends.works_closeRelay⟩
  · exact .refl session

theorem continues_onSignal (signal : Signal) :
    session.Continues env throws (session.onSignal env signal) := by
  cases signal with
  | frame frame => exact continues_onFrame frame
  | malformed => exact .refl session
  | invalidLength => exact ⟨rfl, rfl, Ends.works_failRelay⟩

theorem continues_signals (signals : List Signal) :
    session.Continues env throws (run (onSignal env) session signals) := by
  induction signals generalizing session with
  | nil => exact .refl session
  | cons signal rest ih => exact (continues_onSignal signal).trans ih

theorem continues_onRelayData : session.Continues env throws (session.onRelayData env chunk) := by
  have hbuffered : session.Continues env throws { session with ends.relay.framed.buffer :=
      (drain env.codec (session.ends.relay.framed.buffer ++ chunk)).2 } :=
    ⟨rfl, rfl, .touched rfl rfl rfl rfl⟩
  exact hbuffered.trans (continues_signals _)

theorem continues_onClientData
    (hundone : ¬ (session.ends.client.destroyed ∨ session.ends.client.finished)) :
    session.Continues env (session.Throws env (.clientData chunk))
      (session.onClientData env chunk) := by
  have hread : session.ends.Works true (session.Throws env (.clientData chunk))
      { session.ends with client.read := session.ends.client.read ++ [chunk] } :=
    .touched rfl rfl rfl rfl
  unfold onClientData
  split_ifs with hopened
  · refine ⟨rfl, rfl, hread.trans (Ends.works_sending (Ends.not_open_of_data _ _) ?_)⟩
    intro hunwritable
    exact ⟨_, if_neg (not_or.2 ⟨hundone, not_not.2 hopened⟩), hunwritable⟩
  · exact ⟨rfl, rfl, hread⟩

theorem continues_onClientEnd
    (hthrows : session.ends.Unwritable env (streamCloseFrame session.streamId "client_end") →
      throws) : session.Continues env throws (session.onClientEnd env) :=
  ⟨rfl, rfl, Ends.works_sending (Ends.not_open_of_close _) hthrows⟩

theorem continues_onClientClose
    (hthrows : session.ends.Unwritable env (streamCloseFrame session.streamId "client_close") →
      throws) : session.Continues env throws (session.onClientClose env) :=
  ⟨rfl, rfl, Ends.works_closing (Ends.not_open_of_close _) hthrows⟩

theorem continues_handleRunning (event : SocketEvent) :
    session.Continues env (session.Throws env event) (session.handleRunning env event) := by
  cases event with
  | relayConnected => exact .refl session
  | relayFailed => exact ⟨rfl, rfl, Ends.works_relaySocketFails⟩
  | relayData chunk =>
    rw [handleRunning]
    split_ifs
    · exact .refl session
    · exact continues_onRelayData chunk
  | relayEnd =>
    rw [handleRunning]
    split_ifs
    · exact .refl session
    · exact ⟨rfl, rfl, .touched rfl rfl rfl rfl⟩
  | relayClose =>
    rw [handleRunning]
    split_ifs
    · exact .refl session
    · exact ⟨rfl, rfl, Ends.works_relayCloses⟩
  | clientData chunk =>
    rw [handleRunning]
    split_ifs with hdone
    · exact .refl session
    · exact continues_onClientData chunk hdone
  | clientEnd =>
    rw [handleRunning]
    split_ifs with hdone
    · exact .refl session
    · have hended : session.Continues env (session.Throws env .clientEnd) { session with
          ends.client := { session.ends.client with finished := true, ended := true } } :=
        ⟨rfl, rfl, .touched rfl rfl rfl rfl⟩
      exact hended.trans (continues_onClientEnd fun h => ⟨_, if_neg hdone, h⟩)
  | clientClose =>
    rw [handleRunning]
    split_ifs with hdone
    · exact .refl session
    · have hgone : session.Continues env (session.Throws env .clientClose) { session with
          ends.client := { session.ends.client with gone := true, destroyed := true } } :=
        ⟨rfl, rfl, .touched rfl rfl rfl rfl⟩
      exact hgone.trans (continues_onClientClose fun h => ⟨_, if_neg hdone, h⟩)
  | clientFailed => exact ⟨rfl, rfl, Ends.works_clientSocketFails⟩

end TcpSession

namespace UpgradeSession

/-- The frame that a listener of the client's socket sends. -/
def sends (session : UpgradeSession) : SocketEvent → Option Json
  | .clientData chunk =>
    if session.ends.client.destroyed ∨ session.ends.client.finished then none
    else some (streamDataFrame session.streamId chunk)
  | .clientEnd =>
    if session.ends.client.destroyed ∨ session.ends.client.finished then none
    else some (streamCloseFrame session.streamId "client_end")
  | .clientClose =>
    if session.ends.client.gone then none
    else some (streamCloseFrame session.streamId "client_close")
  | _ => none

/-- A listener throws: its frame cannot be written. -/
def Throws (config : Config) (session : UpgradeSession) (event : SocketEvent) : Prop :=
  ∃ payload, session.sends event = some payload ∧ session.ends.Unwritable config.env payload

/-- The phase and what the handler was called with stay, and the ends work. -/
structure Continues (config : Config) (throws : Prop) (before after : UpgradeSession) : Prop where
  phase : after.phase = before.phase
  request : after.request = before.request
  httpVersion : after.httpVersion = before.httpVersion
  head : after.head = before.head
  hostname : after.hostname = before.hostname
  streamId : after.streamId = before.streamId
  ends : before.ends.Works false throws after.ends

variable {config : Config} {throws : Prop} {session next : UpgradeSession}

theorem Continues.of_works {ends : Ends} {opened timer : Bool}
    (h : session.ends.Works false throws ends) :
    session.Continues config throws { session with opened, timer, ends } :=
  ⟨rfl, rfl, rfl, rfl, rfl, rfl, h⟩

theorem Continues.refl (session : UpgradeSession) : session.Continues config throws session :=
  .of_works (.refl _)

theorem Continues.trans {last : UpgradeSession} (h : session.Continues config throws next)
    (h' : next.Continues config throws last) : session.Continues config throws last :=
  ⟨h'.phase.trans h.phase, h'.request.trans h.request, h'.httpVersion.trans h.httpVersion,
    h'.head.trans h.head, h'.hostname.trans h.hostname, h'.streamId.trans h.streamId,
    h.ends.trans h'.ends⟩

theorem continues_onFrame (frame : Json) :
    session.Continues config throws (session.onFrame config frame) := by
  unfold onFrame
  split_ifs
  · exact .refl session
  · exact .of_works (.refl _)
  · split
    · exact .of_works (.refl _)
    · exact .of_works Ends.works_writeClient
  · exact .of_works (Ends.works_endClient.trans Ends.works_closeRelay)
  · exact .refl session

theorem continues_onSignal (signal : Signal) :
    session.Continues config throws (session.onSignal config signal) := by
  cases signal with
  | frame frame => exact continues_onFrame frame
  | malformed => exact .refl session
  | invalidLength => exact .of_works Ends.works_failRelay

theorem continues_signals (signals : List Signal) :
    session.Continues config throws (run (onSignal config) session signals) := by
  induction signals generalizing session with
  | nil => exact .refl session
  | cons signal rest ih => exact (continues_onSignal signal).trans ih

theorem continues_onRelayData :
    session.Continues config throws (session.onRelayData config chunk) := by
  have hbuffered : session.Continues config throws { session with ends.relay.framed.buffer :=
      (drain config.env.codec (session.ends.relay.framed.buffer ++ chunk)).2 } :=
    .of_works (.touched rfl rfl rfl rfl)
  exact hbuffered.trans (continues_signals _)

theorem continues_onClientData
    (hthrows : session.ends.Unwritable config.env (streamDataFrame session.streamId chunk) →
      throws) : session.Continues config throws (session.onClientData config chunk) := by
  have hread : session.ends.Works false throws
      { session.ends with client.read := session.ends.client.read ++ [chunk] } :=
    .touched rfl rfl rfl rfl
  exact .of_works (hread.trans (Ends.works_sending (Ends.not_open_of_data _ _) hthrows))

theorem continues_onClientEnd (hthrows : session.ends.Unwritable config.env
      (streamCloseFrame session.streamId "client_end") → throws) :
    session.Continues config throws (session.onClientEnd config) :=
  .of_works (Ends.works_sending (Ends.not_open_of_close _) hthrows)

theorem continues_onClientClose (hthrows : session.ends.Unwritable config.env
      (streamCloseFrame session.streamId "client_close") → throws) :
    session.Continues config throws (session.onClientClose config) :=
  .of_works (Ends.works_closing (Ends.not_open_of_close _) hthrows)

theorem continues_onTimeout : session.Continues config throws session.onTimeout := by
  unfold onTimeout
  split_ifs
  · dsimp only
    split_ifs
    · exact .of_works (.refl _)
    · exact .of_works ((Ends.works_writeClient.trans
        Ends.works_destroyClient).trans Ends.works_destroyRelay)
  · exact .refl session

theorem continues_handleRunning (event : SocketEvent) :
    session.Continues config (session.Throws config event)
      (session.handleRunning config event) := by
  cases event with
  | relayConnected => exact .refl session
  | relayFailed => exact .of_works Ends.works_relaySocketFails
  | relayData chunk =>
    rw [handleRunning]
    split_ifs
    · exact .refl session
    · exact continues_onRelayData chunk
  | relayEnd =>
    rw [handleRunning]
    split_ifs
    · exact .refl session
    · exact .of_works (.touched rfl rfl rfl rfl)
  | relayClose =>
    rw [handleRunning]
    split_ifs
    · exact .refl session
    · exact .of_works Ends.works_relayCloses
  | clientData chunk =>
    rw [handleRunning]
    split_ifs with hdone
    · exact .refl session
    · exact continues_onClientData chunk fun h => ⟨_, if_neg hdone, h⟩
  | clientEnd =>
    rw [handleRunning]
    split_ifs with hdone
    · exact .refl session
    · have hfinished : session.Continues config (session.Throws config .clientEnd)
          { session with ends.client.finished := true } := .of_works (.touched rfl rfl rfl rfl)
      exact hfinished.trans (continues_onClientEnd fun h => ⟨_, if_neg hdone, h⟩)
  | clientClose =>
    rw [handleRunning]
    split_ifs with hdone
    · exact .refl session
    · have hgone : session.Continues config (session.Throws config .clientClose) { session with
          ends.client := { session.ends.client with gone := true, destroyed := true } } :=
        .of_works (.touched rfl rfl rfl rfl)
      exact hgone.trans (continues_onClientClose fun h => ⟨_, if_neg hdone, h⟩)
  | clientFailed => exact .of_works Ends.works_clientSocketFails

end UpgradeSession

end Tunnara.Edge
