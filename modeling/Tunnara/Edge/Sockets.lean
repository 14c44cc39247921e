/-
# The two ends of a session

A public ingress holds two sockets for a client: the client's own, and a framed connection to a
Relay. Node emits `'error'` on a socket that fails, that is written to after its end or that is
destroyed with an error; an `'error'` nobody listens to ends the process, and so does an exception
in a listener. Errors are emitted at once: no listener is registered in between.
-/

import Tunnara.Js.Base64
import Tunnara.Relay.Framing

namespace Tunnara.Edge

open Relay

/-- What ends the process. -/
inductive Fault
  | unheardError
  | uncaughtException (error : JsError)
  | unhandledRejection (error : JsError)

/-- A socket of a client. -/
structure Socket where
  destroyed : Bool := false
  /-- `end()` was called, or the client ended its side and Node answered it. -/
  ended : Bool := false
  /-- `'end'` was emitted: no data comes any more. -/
  finished : Bool := false
  /-- `'close'` was emitted. -/
  gone : Bool := false
  /-- There is an `'error'` listener. -/
  heard : Bool := false
  /-- What the `'data'` events handed out. -/
  read : List (List UInt8) := []
  written : List (List UInt8) := []

/-- A `FramedConnection` to a Relay. -/
structure Link where
  framed : FramedConnection := {}
  heard : Bool := false
  gone : Bool := false

/-- What the handlers run with. -/
structure Env where
  codec : Codec
  /-- `Buffer.from(value, 'base64')` of a value that is not a text. -/
  otherBuffer : Json → Except JsError (List UInt8)

/-- For worked inputs that consist of the listed frames. -/
def Env.plain (frames : List Json) : Env where
  codec := .plain frames
  otherBuffer _ := .error (typeError "ERR_INVALID_ARG_TYPE")

/-- `Buffer.from(value || '', 'base64')`. -/
def bufferFrom (env : Env) (value : Option Json) : Except JsError (List UInt8) :=
  match orDefault value (.str "") with
  | .str text => .ok (Base64.decode text)
  | other => env.otherBuffer other

theorem bufferFrom_encode (env : Env) (data : List UInt8) :
    bufferFrom env (text (Base64.encode data)) = .ok data := by
  unfold bufferFrom
  by_cases hempty : Base64.encode data = ""
  · have hdata : data = [] := by
      rw [← Base64.decode_encode data, hempty]
      rfl
    subst hdata
    rfl
  · simp [text, orDefault, Json.truthy, hempty, Base64.decode_encode]

def streamDataFrame (streamId : String) (data : List UInt8) : Json :=
  frameOf [("type", text "stream_data"), ("streamId", text streamId),
    ("dataBase64", text (Base64.encode data))]

def streamCloseFrame (streamId reason : String) : Json :=
  frameOf [("type", text "stream_close"), ("streamId", text streamId), ("reason", text reason)]

theorem hasType_streamDataFrame (streamId : String) (chunk : List UInt8) :
    hasType (streamDataFrame streamId chunk) "stream_data" = true := rfl

theorem hasType_streamCloseFrame {streamId reason : String} :
    hasType (streamCloseFrame streamId reason) "stream_close" = true := rfl

theorem not_data_of_close {frame : Json} (h : hasType frame "stream_close" = true) :
    hasType frame "stream_data" = false := hasType_other h _ (by decide)

theorem not_close_of_data {frame : Json} (h : hasType frame "stream_data" = true) :
    hasType frame "stream_close" = false := hasType_other h _ (by decide)

/-- The bytes the `stream_data` frames of a list carry. -/
def carriedBy (env : Env) (frames : List Json) : List UInt8 :=
  (frames.filter fun frame => hasType frame "stream_data").flatMap fun frame =>
    (bufferFrom env (frame.get? "dataBase64")).toOption.getD []

/-- Every `stream_data` frame precedes every `stream_close` frame. -/
def ClosedLast (frames : List Json) : Prop :=
  ∀ before close after, frames = before ++ close :: after →
    hasType close "stream_close" = true → ∀ frame ∈ after, hasType frame "stream_data" = false

/-- What a stream sends: frames that are neither data nor a close, then chunks, then closes. -/
structure Traffic (streamId : String) (frames openings : List Json) (chunks : List (List UInt8))
    (closes : List Json) : Prop where
  frames_eq : frames = openings ++ chunks.map (streamDataFrame streamId) ++ closes
  of_openings : ∀ frame ∈ openings,
    hasType frame "stream_data" = false ∧ hasType frame "stream_close" = false
  of_closes : ∀ frame ∈ closes, hasType frame "stream_close" = true

namespace Traffic

variable {streamId : String} {frames openings closes : List Json} {chunks : List (List UInt8)}

theorem filter_data (h : Traffic streamId frames openings chunks closes) :
    frames.filter (fun frame => hasType frame "stream_data") =
      chunks.map (streamDataFrame streamId) := by
  have hopenings : openings.filter (fun frame => hasType frame "stream_data") = [] :=
    List.filter_eq_nil_iff.2 fun frame hframe => by simp [(h.of_openings frame hframe).1]
  have hcloses : closes.filter (fun frame => hasType frame "stream_data") = [] :=
    List.filter_eq_nil_iff.2 fun frame hframe => by
      simp [not_data_of_close (h.of_closes frame hframe)]
  have hchunks : (chunks.map (streamDataFrame streamId)).filter
      (fun frame => hasType frame "stream_data") = chunks.map (streamDataFrame streamId) := by
    apply List.filter_eq_self.2
    intro frame hframe
    obtain ⟨chunk, -, rfl⟩ := List.mem_map.1 hframe
    exact hasType_streamDataFrame _ _
  rw [h.frames_eq, List.filter_append, List.filter_append, hopenings, hcloses, hchunks,
    List.nil_append, List.append_nil]

theorem carriedBy (env : Env) (h : Traffic streamId frames openings chunks closes) :
    carriedBy env frames = chunks.flatten := by
  have hdecode : ∀ chunk, (bufferFrom env ((streamDataFrame streamId chunk).get?
      "dataBase64")).toOption.getD [] = chunk := by
    intro chunk
    have hfield : (streamDataFrame streamId chunk).get? "dataBase64" =
        text (Base64.encode chunk) := rfl
    rw [hfield, bufferFrom_encode]
    rfl
  unfold Edge.carriedBy
  rw [h.filter_data, List.flatMap_map]
  simp only [hdecode]
  exact List.flatMap_id

theorem closedLast (h : Traffic streamId frames openings chunks closes) : ClosedLast frames := by
  intro before close after hsplit hclose frame hframe
  have hfront : ∀ frame ∈ openings ++ chunks.map (streamDataFrame streamId),
      hasType frame "stream_close" = false := by
    intro frame hframe
    rcases List.mem_append.1 hframe with hopening | hdata
    · exact (h.of_openings frame hopening).2
    · obtain ⟨chunk, -, rfl⟩ := List.mem_map.1 hdata
      exact not_close_of_data (hasType_streamDataFrame _ _)
  rw [h.frames_eq] at hsplit
  rcases List.append_eq_append_iff.1 hsplit with ⟨mid, -, hcloses⟩ | ⟨mid, hmid, hrest⟩
  · apply not_data_of_close
    apply h.of_closes
    rw [hcloses]
    exact List.mem_append_right _ (List.mem_cons_of_mem _ hframe)
  · cases mid with
    | nil =>
      apply not_data_of_close
      apply h.of_closes
      rw [List.nil_append] at hrest
      rw [← hrest]
      exact List.mem_cons_of_mem _ hframe
    | cons first rest =>
      -- the close would be among the openings and the data
      have hfirst : first = close := (List.cons.inj hrest).1.symm
      subst hfirst
      have hnot := hfront first (hmid ▸ List.mem_append_right _ List.mem_cons_self)
      rw [hclose] at hnot
      cases hnot

theorem frame_cases {opening frame : Json} {before after : List Json}
    (h : Traffic streamId frames [opening] chunks closes)
    (hsplit : frames = before ++ frame :: after) :
    before = [] ∧ frame = opening ∨
      before ≠ [] ∧ (∃ chunk, frame = streamDataFrame streamId chunk) ∧
        (∀ other ∈ before, hasType other "stream_close" = false) ∨
      before ≠ [] ∧ hasType frame "stream_close" = true := by
  have hframes := h.frames_eq
  rw [hsplit, List.append_assoc, List.singleton_append] at hframes
  cases before with
  | nil => exact .inl ⟨rfl, (List.cons.inj hframes).1⟩
  | cons first rest =>
    right
    have hmem : frame ∈ chunks.map (streamDataFrame streamId) ++ closes := by
      rw [← (List.cons.inj hframes).2]
      simp
    rcases List.mem_append.1 hmem with hdata | hclose
    · obtain ⟨chunk, -, rfl⟩ := List.mem_map.1 hdata
      refine .inl ⟨List.cons_ne_nil _ _, ⟨chunk, rfl⟩, fun other hother => ?_⟩
      by_contra hclosed
      obtain ⟨prior, later, hprior⟩ := List.append_of_mem hother
      rw [hprior, List.append_assoc, List.cons_append] at hsplit
      have hlast := h.closedLast prior other _ hsplit (by simpa using hclosed)
        (streamDataFrame streamId chunk) (by simp)
      rw [hasType_streamDataFrame] at hlast
      cases hlast
    · exact .inr ⟨List.cons_ne_nil _ _, h.of_closes frame hclose⟩

theorem data (h : Traffic streamId frames openings chunks []) (chunk : List UInt8) :
    Traffic streamId (frames ++ [streamDataFrame streamId chunk]) openings (chunks ++ [chunk]) [] :=
  ⟨by simp [h.frames_eq], h.of_openings, h.of_closes⟩

theorem close (h : Traffic streamId frames openings chunks closes) {frame : Json}
    (hframe : hasType frame "stream_close" = true) :
    Traffic streamId (frames ++ [frame]) openings chunks (closes ++ [frame]) := by
  refine ⟨by simp [h.frames_eq], h.of_openings, fun other hother => ?_⟩
  rcases List.mem_append.1 hother with hold | hnew
  · exact h.of_closes other hold
  · rw [List.mem_singleton.1 hnew]
    exact hframe

theorem nil : Traffic streamId [] [] [] [] := ⟨rfl, by simp, by simp⟩

end Traffic

/-- The client's socket, the connection to the Relay, and what went wrong. -/
structure Ends where
  client : Socket := {}
  relay : Link := {}
  faults : List Fault := []

namespace Ends

def raise (ends : Ends) (fault : Fault) : Ends := { ends with faults := ends.faults ++ [fault] }

/-- The process has ended. -/
def Crashed (ends : Ends) : Prop := ends.faults ≠ []

instance (ends : Ends) : Decidable ends.Crashed := inferInstanceAs (Decidable (_ ≠ _))

/-- `relay.destroy()`. -/
def destroyRelay (ends : Ends) : Ends :=
  { ends with relay.framed := ends.relay.framed.destroy.connection }

/-- `'error'` on the client's socket: its listener destroys the connection to the Relay. -/
def clientEmits (ends : Ends) : Ends :=
  if ends.client.heard then ends.destroyRelay else ends.raise .unheardError

/-- `client.destroy(error)`, or `client.destroy()` where nothing is passed. -/
def destroyClient (ends : Ends) (passed : Bool) : Ends :=
  if ends.client.destroyed then ends
  else
    let ends := { ends with client.destroyed := true }
    if passed then ends.clientEmits else ends

def endClient (ends : Ends) : Ends := { ends with client.ended := true }

/-- `client.write(data)`. -/
def writeClient (ends : Ends) (data : List UInt8) : Ends :=
  if ends.client.destroyed then ends
  else if ends.client.ended then { ends with client.destroyed := true }.clientEmits
  else { ends with client.written := ends.client.written ++ [data] }

/-- `relay.close()`. -/
def closeRelay (ends : Ends) : Ends := { ends with relay.framed := ends.relay.framed.close }

/-- The listeners of a session that runs. -/
def listen (ends : Ends) : Ends := { ends with client.heard := true, relay.heard := true }

variable (env : Env) (passes : Bool)

/-- `'error'` on the connection to the Relay: its listener destroys the client's socket,
with the error if the handler passes it on. -/
def relayEmits (ends : Ends) : Ends :=
  if ends.relay.heard then ends.destroyClient passes else ends.raise .unheardError

/-- `relay.send(payload)`. -/
def send (payload : Json) (ends : Ends) : Except JsError Ends := do
  let effect ← ends.relay.framed.send env.codec payload
  let next := { ends with relay.framed := effect.connection }
  return if effect.emitsError then next.relayEmits passes else next

/-- A listener whose throw nothing catches. -/
def listener (ends : Ends) (result : Except JsError Ends) : Ends :=
  match result with
  | .ok next => next
  | .error error => ends.raise (.uncaughtException error)

/-- `relay.destroy(error)`. -/
def failRelay (ends : Ends) : Ends :=
  let effect := ends.relay.framed.destroy
  let next := { ends with relay.framed := effect.connection }
  if effect.emitsError then next.relayEmits passes else next

def relaySocketFails (ends : Ends) : Ends :=
  if ends.relay.framed.destroyed then ends
  else { ends with relay.framed.destroyed := true }.relayEmits passes

def clientSocketFails (ends : Ends) : Ends :=
  if ends.client.destroyed then ends else { ends with client.destroyed := true }.clientEmits

/-- The socket to the Relay emitted `'close'`; the listener destroys the client's socket. -/
def relayCloses (ends : Ends) : Ends :=
  { ends with relay := { ends.relay with
    gone := true, framed.closed := true, framed.destroyed := true } }.destroyClient false

/-- Nothing was sent to the Relay and nothing was read from the client. -/
structure Still (before after : Ends) : Prop where
  sent : after.relay.framed.sent = before.relay.framed.sent
  read : after.client.read = before.client.read
  finished : before.client.finished = true → after.client.finished = true
  destroyed : before.client.destroyed = true → after.client.destroyed = true

variable {env passes} {ends next : Ends}

theorem Still.refl (ends : Ends) : ends.Still ends := ⟨rfl, rfl, id, id⟩

theorem Still.trans {last : Ends} (h : ends.Still next) (h' : next.Still last) : ends.Still last :=
  ⟨h'.sent.trans h.sent, h'.read.trans h.read, fun hfinished => h'.finished (h.finished hfinished),
    fun hdestroyed => h'.destroyed (h.destroyed hdestroyed)⟩

theorem still_raise {fault : Fault} : ends.Still (ends.raise fault) := ⟨rfl, rfl, id, id⟩

theorem still_destroyRelay : ends.Still ends.destroyRelay := ⟨rfl, rfl, id, id⟩

theorem still_clientEmits : ends.Still ends.clientEmits := by
  unfold clientEmits
  split_ifs
  · exact still_destroyRelay
  · exact still_raise

theorem still_destroyClient : ends.Still (ends.destroyClient passes) := by
  have hmarked : ends.Still { ends with client.destroyed := true } :=
    ⟨rfl, rfl, id, fun _ => rfl⟩
  unfold destroyClient
  split_ifs
  · exact .refl ends
  · exact hmarked.trans still_clientEmits
  · exact hmarked

theorem still_relayEmits : ends.Still (ends.relayEmits passes) := by
  unfold relayEmits
  split_ifs
  · exact still_destroyClient
  · exact still_raise

theorem still_writeClient {data : List UInt8} : ends.Still (ends.writeClient data) := by
  unfold writeClient
  split_ifs
  · exact .refl ends
  · have hmarked : ends.Still { ends with client.destroyed := true } :=
      ⟨rfl, rfl, id, fun _ => rfl⟩
    exact hmarked.trans still_clientEmits
  · exact ⟨rfl, rfl, id, id⟩

theorem still_closeRelay : ends.Still ends.closeRelay := by
  refine ⟨?_, rfl, id, id⟩
  show ends.relay.framed.close.sent = ends.relay.framed.sent
  unfold FramedConnection.close
  split_ifs <;> rfl

theorem still_endClient : ends.Still ends.endClient := ⟨rfl, rfl, id, id⟩

theorem still_failRelay : ends.Still (ends.failRelay passes) := by
  have hmarked : ends.Still { ends with relay.framed := ends.relay.framed.destroy.connection } :=
    ⟨rfl, rfl, id, id⟩
  unfold failRelay
  dsimp only
  split_ifs
  · exact hmarked.trans still_relayEmits
  · exact hmarked

theorem still_relaySocketFails : ends.Still (ends.relaySocketFails passes) := by
  unfold relaySocketFails
  split_ifs
  · exact .refl ends
  · have hmarked : ends.Still { ends with relay.framed.destroyed := true } :=
      ⟨rfl, rfl, id, id⟩
    exact hmarked.trans still_relayEmits

theorem still_clientSocketFails : ends.Still ends.clientSocketFails := by
  unfold clientSocketFails
  split_ifs
  · exact .refl ends
  · have hmarked : ends.Still { ends with client.destroyed := true } :=
      ⟨rfl, rfl, id, fun _ => rfl⟩
    exact hmarked.trans still_clientEmits

theorem still_relayCloses : ends.Still ends.relayCloses := by
  have hmarked : ends.Still { ends with relay := { ends.relay with
      gone := true, framed.closed := true, framed.destroyed := true } } := ⟨rfl, rfl, id, id⟩
  exact hmarked.trans still_destroyClient

/-- The connection to the Relay takes the frame. -/
structure CanSend (env : Env) (ends : Ends) (payload : Json) : Prop where
  unclosed : ends.relay.framed.silent = false
  unended : ends.relay.framed.ended = false
  fits : FramedConnection.Fits env.codec payload

/-- The ends after the frame was written. -/
def wrote (ends : Ends) (payload : Json) : Ends :=
  { ends with relay.framed.sent := ends.relay.framed.sent ++ [payload] }

theorem send_cases {payload : Json} (h : ends.send env passes payload = .ok next) :
    ends.CanSend env payload ∧ next = ends.wrote payload ∨ ends.Still next := by
  obtain ⟨effect, hsend, h⟩ := bind_eq_ok.1 h
  cases h
  rcases FramedConnection.send_cases hsend with ⟨-, rfl⟩ | ⟨-, -, -, rfl⟩ |
    ⟨hopen, hfits, hunended, rfl⟩
  · exact .inr (.refl ends)
  · have hmarked : ends.Still { ends with
        relay.framed := { ends.relay.framed with destroyed := true } } := ⟨rfl, rfl, id, id⟩
    exact .inr (hmarked.trans still_relayEmits)
  · exact .inl ⟨⟨hopen, hunended, hfits⟩, rfl⟩

theorem CanSend.send {payload : Json} (h : CanSend env ends payload) :
    ends.send env passes payload = .ok (ends.wrote payload) := by
  obtain ⟨data, hdata⟩ := h.fits
  unfold Ends.send FramedConnection.send
  simp [h.unclosed, h.unended, hdata, bind, Except.bind, pure, Except.pure, wrote]

end Ends

/-- What happens to the two sockets of a session. -/
inductive SocketEvent
  | relayConnected
  | relayFailed
  | relayData (chunk : List UInt8)
  | relayEnd
  | relayClose
  | clientData (chunk : List UInt8)
  | clientEnd
  | clientClose
  | clientFailed

end Tunnara.Edge
