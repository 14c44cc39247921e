/-
# Framed connections

`FramedConnection`: a four-byte big-endian length, then that many bytes of JSON. The loop of
`#onData` touches only the buffer, so it is split off as `drain`, which turns the buffered bytes
into the signals the connection emits and the bytes it keeps.

`JSON.parse` and `JSON.stringify` are a parameter, `Codec`. Node's part of a socket is what the
handlers can observe of it: it may be closed, destroyed, or ended for writing.
-/

import Tunnara.Js.Value

namespace Tunnara.Relay

def maxFrameSize : ℕ := 16 * 1024 * 1024

/-- An object literal; a property that is `undefined` is not written. -/
def frameOf (fields : List (String × Option Json)) : Json :=
  .obj (fields.filterMap fun field => field.2.map (field.1, ·))

/-- `{ ...frame, ...fields }`. -/
def overriding (frame : Json) (fields : List (String × Option Json)) : Json :=
  .obj (fields.foldl (fun own field =>
    match field.2 with
    | some value => Json.setField own field.1 value
    | none => own.filter fun f => f.1 ≠ field.1) (object (some frame)))

def text (s : String) : Option Json := some (.str s)

/-- `frame.type === type`. -/
def hasType (frame : Json) (type : String) : Bool := frame.get? "type" = text type

theorem hasType_other {frame : Json} {type : String} (h : hasType frame type = true) :
    ∀ other, other ≠ type → hasType frame other = false := by
  intro other hne
  unfold hasType at h ⊢
  have htype : frame.get? "type" = text type := of_decide_eq_true h
  simp [htype, text, hne.symm]

/-- Reading and writing the payload of a frame. -/
structure Codec where
  /-- `JSON.parse(payload.toString('utf8'))`; `none` when it throws. -/
  parse : List UInt8 → Option Json
  /-- `Buffer.from(JSON.stringify(payload), 'utf8')`; it throws on very deep values. -/
  stringify : Json → Except JsError (List UInt8)

namespace Codec

mutual

/-- The JSON text of a value whose strings need no escapes. -/
def render : Json → List Char
  | .null => "null".toList
  | .bool b => (if b then "true" else "false").toList
  | .num q => (toString q.num).toList
  | .str s => '"' :: s.toList ++ ['"']
  | .arr items => '[' :: renderItems items ++ [']']
  | .obj fields => '{' :: renderFields fields ++ ['}']

def renderItems : List Json → List Char
  | [] => []
  | [item] => render item
  | item :: rest => render item ++ ',' :: renderItems rest

def renderFields : List (String × Json) → List Char
  | [] => []
  | [field] => '"' :: field.1.toList ++ '"' :: ':' :: render field.2
  | field :: rest => '"' :: field.1.toList ++ '"' :: ':' :: render field.2 ++ ',' :: renderFields rest

end

/-- The bytes of a value written in ASCII. -/
def bytes (value : Json) : List UInt8 := (render value).map fun c => UInt8.ofNat c.toNat

/-- `header.writeUInt32BE(length, 0)`. -/
def writeUInt32BE (length : ℕ) : List UInt8 :=
  [length / 2 ^ 24, length / 2 ^ 16, length / 2 ^ 8, length].map UInt8.ofNat

/-- A frame as `send` writes it to the socket. -/
def wire (value : Json) : List UInt8 := writeUInt32BE (bytes value).length ++ bytes value

/-- A codec for worked inputs: it reads the texts of the listed values. -/
def plain (values : List Json) : Codec where
  parse payload := values.find? fun value => bytes value = payload
  stringify value := .ok (bytes value)

end Codec

/-- What `#onData` makes of the front of the buffer. -/
inductive Signal
  | frame (value : Json)
  /-- `JSON.parse` threw: `'protocolError'` is emitted. -/
  | malformed
  | invalidLength
  deriving DecidableEq

def Signal.value? : Signal → Option Json
  | .frame value => some value
  | _ => none

/-- `buffer.readUInt32BE(0)`. -/
def readUInt32BE (buffer : List UInt8) : ℕ :=
  (buffer.take 4).foldl (fun acc byte => acc * 256 + byte.toNat) 0

variable (codec : Codec)

def signalOf (payload : List UInt8) : Signal :=
  match codec.parse payload with
  | some value => .frame value
  | none => .malformed

/-- The loop of `#onData`, with a bound on its turns. -/
def drainWith : ℕ → List UInt8 → List Signal × List UInt8
  | 0, buffer => ([], buffer)
  | fuel + 1, buffer =>
    if buffer.length < 4 then ([], buffer)
    else
      let length := readUInt32BE buffer
      if length = 0 ∨ maxFrameSize < length then ([.invalidLength], buffer)
      else if buffer.length < 4 + length then ([], buffer)
      else
        let payload := (buffer.drop 4).take length
        let rest := drainWith fuel (buffer.drop (4 + length))
        (signalOf codec payload :: rest.1, rest.2)

/-- The loop of `#onData`: every turn takes bytes off the buffer. -/
def drain (buffer : List UInt8) : List Signal × List UInt8 := drainWith codec buffer.length buffer

theorem drainWith_eq (fuel : ℕ) (buffer : List UInt8) (h : buffer.length ≤ fuel) :
    drainWith codec fuel buffer = drain codec buffer := by
  unfold drain
  induction fuel using Nat.strong_induction_on generalizing buffer with
  | _ fuel ih =>
    cases fuel with
    | zero =>
      have hempty : buffer.length = 0 := by omega
      rw [hempty]
    | succ fuel =>
      cases hlength : buffer.length with
      | zero => simp [drainWith, hlength]
      | succ n =>
        have hfuel : n ≤ fuel := by omega
        simp only [drainWith]
        by_cases hshort : buffer.length < 4
        · rw [if_pos hshort, if_pos hshort]
        rw [if_neg hshort, if_neg hshort]
        by_cases hbad : readUInt32BE buffer = 0 ∨ maxFrameSize < readUInt32BE buffer
        · rw [if_pos hbad, if_pos hbad]
        rw [if_neg hbad, if_neg hbad]
        by_cases hpart : buffer.length < 4 + readUInt32BE buffer
        · rw [if_pos hpart, if_pos hpart]
        rw [if_neg hpart, if_neg hpart]
        have hrest : (buffer.drop (4 + readUInt32BE buffer)).length ≤ n := by
          rw [List.length_drop]
          omega
        rw [ih fuel (by omega) _ (by omega), ih n (by omega) _ hrest]

theorem drain_eq (buffer : List UInt8) : drain codec buffer =
    if buffer.length < 4 then ([], buffer)
    else if readUInt32BE buffer = 0 ∨ maxFrameSize < readUInt32BE buffer then
      ([.invalidLength], buffer)
    else if buffer.length < 4 + readUInt32BE buffer then ([], buffer)
    else
      (signalOf codec ((buffer.drop 4).take (readUInt32BE buffer)) ::
        (drain codec (buffer.drop (4 + readUInt32BE buffer))).1,
        (drain codec (buffer.drop (4 + readUInt32BE buffer))).2) := by
  rw [← drainWith_eq codec (buffer.length + 1) buffer (by omega), drainWith]
  have hrest := drainWith_eq codec buffer.length (buffer.drop (4 + readUInt32BE buffer))
    (by rw [List.length_drop]; omega)
  simp only [hrest]

theorem drainWith_invalidLength (fuel : ℕ) (buffer : List UInt8) (before after : List Signal)
    (h : (drainWith codec fuel buffer).1 = before ++ .invalidLength :: after) : after = [] := by
  induction fuel generalizing buffer before with
  | zero => simp [drainWith] at h
  | succ fuel ih =>
    simp only [drainWith] at h
    split_ifs at h
    · simp at h
    · cases before with
      | nil => exact (List.cons.inj h).2.symm
      | cons first rest => simp at h
    · simp at h
    · cases before with
      | nil =>
        have hfirst := (List.cons.inj h).1
        unfold signalOf at hfirst
        split at hfirst <;> cases hfirst
      | cons first rest => exact ih _ rest (List.cons.inj h).2

/-- A `FramedConnection` and its socket. -/
structure FramedConnection where
  buffer : List UInt8 := []
  /-- The field `closed`, set by `destroy` and by the socket's `'close'`. -/
  closed : Bool := false
  /-- `socket.destroyed`. -/
  destroyed : Bool := false
  /-- `socket.end()` was called, or the peer ended its side. -/
  ended : Bool := false
  /-- The frames written to the socket. -/
  sent : List Json := []

/-- A connection after an operation, and whether its socket emits `'error'`. -/
structure Effect where
  connection : FramedConnection
  emitsError : Bool := false

namespace FramedConnection

/-- A connection nothing is written to any more. -/
def silent (connection : FramedConnection) : Bool := connection.closed || connection.destroyed

/-- The bytes of a frame, unless it cannot be written down or is too long. -/
def encode (payload : Json) : Except JsError (List UInt8) := do
  let data ← codec.stringify payload
  if maxFrameSize < data.length then throw { message := "Frame excede o limite permitido." }
  return data

/-- `send`. Writing after the end makes the socket emit an error. -/
def send (connection : FramedConnection) (payload : Json) : Except JsError Effect :=
  if connection.silent then .ok { connection }
  else do
    let _ ← encode codec payload
    if connection.ended then
      return { connection := { connection with destroyed := true }, emitsError := true }
    return { connection := { connection with sent := connection.sent ++ [payload] } }

def close (connection : FramedConnection) : FramedConnection :=
  if connection.closed then connection else { connection with ended := true }

/-- `destroy(error)`: a socket that is already destroyed emits nothing. -/
def destroy (connection : FramedConnection) : Effect where
  connection := { connection with closed := true, destroyed := true }
  emitsError := !connection.destroyed

/-- The frame can be encoded within the limit. -/
def Fits (payload : Json) : Prop := ∃ data, encode codec payload = .ok data

variable {payload : Json} {connection : FramedConnection} {effect : Effect}

theorem fits_plain {frames : List Json} (h : (Codec.bytes payload).length ≤ maxFrameSize) :
    Fits (.plain frames) payload := by
  refine ⟨Codec.bytes payload, ?_⟩
  unfold encode Codec.plain
  simp only [bind, Except.bind, if_neg (Nat.not_lt.2 h)]
  rfl

variable {codec}

section

variable (h : connection.send codec payload = .ok effect)
include h

theorem send_cases :
    (connection.silent = true ∧ effect = { connection }) ∨
    (connection.silent = false ∧ Fits codec payload ∧ connection.ended = true ∧
      effect = { connection := { connection with destroyed := true }, emitsError := true }) ∨
    (connection.silent = false ∧ Fits codec payload ∧ connection.ended = false ∧
      effect = { connection := { connection with sent := connection.sent ++ [payload] } }) := by
  unfold send at h
  cases hsilent : connection.silent with
  | true =>
    rw [hsilent] at h
    cases h
    exact .inl ⟨rfl, rfl⟩
  | false =>
    rw [hsilent, if_neg (by simp)] at h
    obtain ⟨data, hdata, h⟩ := bind_eq_ok.1 h
    cases hended : connection.ended with
    | true =>
      rw [hended] at h
      cases h
      exact .inr (.inl ⟨rfl, ⟨data, hdata⟩, rfl, rfl⟩)
    | false =>
      rw [hended] at h
      cases h
      exact .inr (.inr ⟨rfl, ⟨data, hdata⟩, rfl, rfl⟩)

omit h in
theorem send_eq_error_iff :
    (∃ error, connection.send codec payload = .error error) ↔
      connection.silent = false ∧ ¬ Fits codec payload := by
  unfold send Fits
  cases hsilent : connection.silent with
  | true => simp
  | false =>
    cases hencode : encode codec payload with
    | error error => simp [bind, Except.bind]
    | ok data =>
      cases hended : connection.ended <;> simp [bind, Except.bind, pure, Except.pure]

theorem fits_of_send (hsilent : connection.silent = false) : Fits codec payload := by
  rcases send_cases h with ⟨htrue, -⟩ | ⟨-, hfits, -⟩ | ⟨-, hfits, -⟩
  · simp [hsilent] at htrue
  · exact hfits
  · exact hfits

theorem emitsError_of_send :
    effect.emitsError = true ↔ ¬ (connection.silent = false →
      Fits codec payload ∧ connection.ended = false) := by
  rcases send_cases h with ⟨hsilent, rfl⟩ | ⟨hsilent, hfits, hended, rfl⟩ |
    ⟨hsilent, hfits, hended, rfl⟩
  · simp [hsilent]
  · simp [hsilent, hended]
  · simp [hsilent, hended, hfits]

end

end FramedConnection

end Tunnara.Relay
