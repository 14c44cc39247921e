/-
# Frames and chunks

TCP delivers the bytes of a connection in chunks of its own choosing. `#onData`
keeps what is not a complete frame yet, so the frames that come out are those that
went in, whatever the cuts: inside a header, inside a character, or with several
frames in a chunk.

`maxFrameSize` is its default, which no caller overrides.
-/

import Tunnara.Data.Incremental
import Tunnara.Data.Transition
import Tunnara.Relay.Framing

namespace Tunnara.Relay

variable (codec : Codec)

/-- What `send` hands to `socket.write` for one payload. -/
def packet (payload : Json) : List UInt8 :=
  match FramedConnection.encode codec payload with
  | .error _ => []
  | .ok data => Codec.writeUInt32BE data.length ++ data

variable {payload : Json} {buffer : List UInt8}

namespace FramedConnection

/-- The bytes that were written to the socket. -/
def wire (connection : FramedConnection) : List UInt8 := connection.sent.flatMap (packet codec)

def sendAll (connection : FramedConnection) (payloads : List Json) :
    Except JsError FramedConnection :=
  payloads.foldlM (fun connection payload =>
    (connection.send codec payload).map Effect.connection) connection

variable {codec}

theorem send_of_fits {connection : FramedConnection} (hsilent : connection.silent = false)
    (hended : connection.ended = false) (hfits : Fits codec payload) :
    connection.send codec payload =
      .ok { connection := { connection with sent := connection.sent ++ [payload] } } := by
  obtain ⟨data, hdata⟩ := hfits
  unfold send
  rw [hsilent, if_neg (by simp), hdata, hended]
  rfl

theorem sendAll_of_fits {connection : FramedConnection} {payloads : List Json}
    (hsilent : connection.silent = false) (hended : connection.ended = false)
    (hfits : ∀ payload ∈ payloads, Fits codec payload) :
    connection.sendAll codec payloads =
      .ok { connection with sent := connection.sent ++ payloads } := by
  induction payloads generalizing connection with
  | nil =>
    rw [List.append_nil]
    rfl
  | cons payload rest ih =>
    have hfirst := send_of_fits hsilent hended (hfits payload List.mem_cons_self)
    have hrest := @ih { connection with sent := connection.sent ++ [payload] } hsilent hended
      fun other hother => hfits other (List.mem_cons_of_mem _ hother)
    unfold sendAll at hrest ⊢
    rw [List.foldlM_cons, hfirst]
    rw [List.append_assoc] at hrest
    exact hrest

end FramedConnection

variable {codec}

/-- The buffer starts with a header that announces no bytes or too many. -/
def BadLength (buffer : List UInt8) : Prop :=
  4 ≤ buffer.length ∧ (readUInt32BE buffer = 0 ∨ maxFrameSize < readUInt32BE buffer)

instance (buffer : List UInt8) : Decidable (BadLength buffer) :=
  inferInstanceAs (Decidable (_ ∧ _))

def WholeFrame (buffer : List UInt8) : Prop :=
  4 ≤ buffer.length ∧ 0 < readUInt32BE buffer ∧ readUInt32BE buffer ≤ maxFrameSize ∧
    4 + readUInt32BE buffer ≤ buffer.length

instance (buffer : List UInt8) : Decidable (WholeFrame buffer) :=
  inferInstanceAs (Decidable (_ ∧ _))

theorem readUInt32BE_append (h : 4 ≤ buffer.length) (more : List UInt8) :
    readUInt32BE (buffer ++ more) = readUInt32BE buffer := by
  unfold readUInt32BE
  rw [List.take_append_of_le_length h]

theorem badLength_append (h : BadLength buffer) (more : List UInt8) :
    BadLength (buffer ++ more) := by
  refine ⟨?_, ?_⟩
  · rw [List.length_append]
    exact Nat.le_add_right_of_le h.1
  · rw [readUInt32BE_append h.1]
    exact h.2

theorem not_wholeFrame_of_badLength (h : BadLength buffer) : ¬ WholeFrame buffer := by
  rintro ⟨-, hpositive, hlimit, -⟩
  rcases h.2 with hzero | hlong
  · omega
  · omega

theorem wholeFrame_append (h : WholeFrame buffer) (more : List UInt8) :
    WholeFrame (buffer ++ more) := by
  obtain ⟨hheader, hpositive, hlimit, hwhole⟩ := h
  unfold WholeFrame
  rw [readUInt32BE_append hheader, List.length_append]
  exact ⟨by omega, hpositive, hlimit, by omega⟩

variable (codec)

/-- One turn of the loop of `#onData` that emits. -/
def frames : Decoder UInt8 Signal where
  next buffer :=
    if WholeFrame buffer then
      some (signalOf codec ((buffer.drop 4).take (readUInt32BE buffer)),
        buffer.drop (4 + readUInt32BE buffer))
    else none
  shrinks h := by
    split_ifs at h with hwhole
    obtain ⟨hheader, -⟩ := hwhole
    cases h
    rw [List.length_drop]
    omega
  stable {buffer _ _} more h := by
    split_ifs at h with hwhole
    have hlonger := wholeFrame_append hwhole more
    obtain ⟨hheader, -, -, hlength⟩ := hwhole
    have hpayload : readUInt32BE buffer ≤ (buffer.drop 4).length := by
      rw [List.length_drop]
      omega
    cases h
    rw [if_pos hlonger, readUInt32BE_append hheader, List.drop_append_of_le_length hheader,
      List.take_append_of_le_length hpayload, List.drop_append_of_le_length hlength]

variable {codec}

theorem next_of_wholeFrame (h : WholeFrame buffer) :
    (frames codec).next buffer =
      some (signalOf codec ((buffer.drop 4).take (readUInt32BE buffer)),
        buffer.drop (4 + readUInt32BE buffer)) := if_pos h

theorem next_of_not_wholeFrame (h : ¬ WholeFrame buffer) :
    (frames codec).next buffer = none := if_neg h

/-- What the connection says of the bytes that are left: it is destroyed by a bad header. -/
def lastSignals (rest : List UInt8) : List Signal :=
  if BadLength rest then [.invalidLength] else []

theorem drain_eq_decode (buffer : List UInt8) :
    drain codec buffer = (((frames codec).decode buffer).1 ++
      lastSignals ((frames codec).decode buffer).2, ((frames codec).decode buffer).2) := by
  induction buffer using Decoder.decode.induct (frames codec) with
  | case1 buffer hnext =>
    have hpart : ¬ WholeFrame buffer := by
      intro hwhole
      rw [next_of_wholeFrame hwhole] at hnext
      cases hnext
    rw [Decoder.decode_of_none hnext, drain_eq, lastSignals, List.nil_append]
    by_cases hshort : buffer.length < 4
    · have hgood : ¬ BadLength buffer := fun hbad => by
        have hheader := hbad.1
        omega
      rw [if_pos hshort, if_neg hgood]
    · rw [if_neg hshort]
      by_cases hbad : readUInt32BE buffer = 0 ∨ maxFrameSize < readUInt32BE buffer
      · rw [if_pos hbad, if_pos ⟨Nat.le_of_not_lt hshort, hbad⟩]
      · have hcut : buffer.length < 4 + readUInt32BE buffer := by
          unfold WholeFrame at hpart
          omega
        rw [if_neg hbad, if_pos hcut, if_neg fun h => hbad h.2]
  | case2 buffer item rest hnext _ ih =>
    have hwhole : WholeFrame buffer := by
      by_contra hpart
      rw [next_of_not_wholeFrame hpart] at hnext
      cases hnext
    rw [Decoder.decode_of_some hnext]
    rw [next_of_wholeFrame hwhole] at hnext
    cases hnext
    obtain ⟨hheader, hpositive, hlimit, hlength⟩ := hwhole
    rw [drain_eq, if_neg (by omega), if_neg (by omega), if_neg (by omega), ih]
    rfl

theorem invalidLength_mem_drain :
    .invalidLength ∈ (drain codec buffer).1 ↔ BadLength (drain codec buffer).2 := by
  rw [drain_eq_decode]
  have hframes : .invalidLength ∉ ((frames codec).decode buffer).1 := by
    intro hmem
    obtain ⟨front, rest, hnext⟩ := Decoder.exists_next_of_mem hmem
    by_cases hwhole : WholeFrame front
    · rw [next_of_wholeFrame hwhole] at hnext
      have hsignal := congrArg Prod.fst (Option.some.inj hnext)
      unfold signalOf at hsignal
      split at hsignal <;> cases hsignal
    · rw [next_of_not_wholeFrame hwhole] at hnext
      cases hnext
  rw [List.mem_append, or_iff_right hframes, lastSignals]
  split_ifs with hbad
  · exact iff_of_true List.mem_cons_self hbad
  · exact iff_of_false List.not_mem_nil hbad

theorem drain_append (h : ¬ BadLength (drain codec buffer).2) (more : List UInt8) :
    drain codec (buffer ++ more) =
      ((drain codec buffer).1 ++ (drain codec ((drain codec buffer).2 ++ more)).1,
        (drain codec ((drain codec buffer).2 ++ more)).2) := by
  simp only [drain_eq_decode] at h ⊢
  rw [Decoder.decode_append, lastSignals, lastSignals, if_neg h, List.append_nil, List.append_assoc]

theorem drain_append_of_badLength (h : BadLength (drain codec buffer).2) (more : List UInt8) :
    drain codec (buffer ++ more) = ((drain codec buffer).1, (drain codec buffer).2 ++ more) := by
  simp only [drain_eq_decode] at h ⊢
  have hlonger := badLength_append h more
  rw [Decoder.decode_append,
    Decoder.decode_of_none (next_of_not_wholeFrame (not_wholeFrame_of_badLength hlonger)),
    lastSignals, lastSignals, if_pos h, if_pos hlonger, List.append_nil]

theorem readUInt32BE_write {length : ℕ} (h : length < 2 ^ 32) (more : List UInt8) :
    readUInt32BE (Codec.writeUInt32BE length ++ more) = length := by
  simp only [readUInt32BE, Codec.writeUInt32BE, List.map_cons, List.map_nil, List.cons_append,
    List.nil_append, List.take_succ_cons, List.take_zero, List.foldl_cons, List.foldl_nil,
    UInt8.toNat_ofNat']
  omega

@[simp]
theorem length_writeUInt32BE (length : ℕ) : (Codec.writeUInt32BE length).length = 4 := rfl

/-- Reading takes back what `JSON.stringify` wrote; there is no JSON text without characters. -/
structure Codec.Restores (codec : Codec) (payload : Json) : Prop where
  restored : ∀ data, codec.stringify payload = .ok data → codec.parse data = some payload
  empty : codec.parse [] = none

theorem encode_eq_ok {data : List UInt8} (h : FramedConnection.encode codec payload = .ok data) :
    codec.stringify payload = .ok data ∧ data.length ≤ maxFrameSize := by
  obtain ⟨written, hwritten, h⟩ := bind_eq_ok.1 h
  by_cases hlong : maxFrameSize < written.length
  · rw [if_pos hlong] at h
    cases h
  · rw [if_neg hlong] at h
    cases h
    exact ⟨hwritten, Nat.le_of_not_lt hlong⟩

theorem encodes_packet (hfits : FramedConnection.Fits codec payload)
    (hrestores : codec.Restores payload) :
    (frames codec).Encodes (.frame payload) (packet codec payload) := by
  obtain ⟨data, hdata⟩ := hfits
  obtain ⟨hwritten, hlimit⟩ := encode_eq_ok hdata
  have hparse := hrestores.restored data hwritten
  have hpositive : 0 < data.length := by
    apply List.length_pos_of_ne_nil
    rintro rfl
    rw [hrestores.empty] at hparse
    cases hparse
  intro more
  have hpacket : packet codec payload = Codec.writeUInt32BE data.length ++ data := by
    rw [packet, hdata]
  have hlength : readUInt32BE (packet codec payload ++ more) = data.length := by
    rw [hpacket, List.append_assoc]
    apply readUInt32BE_write
    unfold maxFrameSize at hlimit
    omega
  have hwhole : WholeFrame (packet codec payload ++ more) := by
    unfold WholeFrame
    rw [hlength, hpacket]
    simp only [List.length_append, length_writeUInt32BE]
    exact ⟨by omega, hpositive, hlimit, by omega⟩
  have hbody : (packet codec payload ++ more).drop 4 = data ++ more := by
    rw [hpacket, List.append_assoc]
    rfl
  rw [next_of_wholeFrame hwhole, hlength, ← List.drop_drop, hbody, List.take_left', List.drop_left',
    signalOf, hparse]
  · rfl
  · rfl

variable (codec)

/-- A connection that receives, and what it has emitted. A bad header destroys it. -/
structure Receiver where
  connection : FramedConnection := {}
  signals : List Signal := []

/-- `#onData`; a destroyed socket emits no `'data'`. -/
def Receiver.onData (receiver : Receiver) (chunk : List UInt8) : Receiver :=
  if receiver.connection.destroyed then receiver
  else
    let read := drain codec (receiver.connection.buffer ++ chunk)
    let connection := { receiver.connection with buffer := read.2 }
    { connection := if .invalidLength ∈ read.1 then connection.destroy.connection else connection
      signals := receiver.signals ++ read.1 }

/-- The connection after the chunks have arrived. -/
def receive (chunks : List (List UInt8)) : Receiver :=
  Transition.run (Receiver.onData codec) {} chunks

variable {codec}

/-- What a connection has made of the bytes that have arrived, and what it keeps. -/
structure Received (codec : Codec) (bytes : List UInt8) (receiver : Receiver) : Prop where
  signals : receiver.signals = (drain codec bytes).1
  destroyed : receiver.connection.destroyed = true ↔ BadLength (drain codec bytes).2
  kept : receiver.connection.destroyed = false → receiver.connection =
    { buffer := (drain codec bytes).2 }

theorem not_badLength_nil : ¬ BadLength [] := fun h => by
  have hheader := h.1
  simp at hheader

theorem received_initial : Received codec [] {} := by
  have hnone : drain codec [] = ([], []) := rfl
  refine ⟨?_, ?_, ?_⟩
  · rw [hnone]
  · rw [hnone]
    exact iff_of_false Bool.false_ne_true not_badLength_nil
  · intro _
    rw [hnone]

theorem Received.onData {bytes : List UInt8} {receiver : Receiver}
    (h : Received codec bytes receiver) (chunk : List UInt8) :
    Received codec (bytes ++ chunk) (receiver.onData codec chunk) := by
  unfold Receiver.onData
  cases hdestroyed : receiver.connection.destroyed with
  | true =>
    have hbad := h.destroyed.1 hdestroyed
    have hmore := drain_append_of_badLength hbad chunk
    rw [if_pos rfl]
    refine ⟨?_, ?_, ?_⟩
    · rw [hmore]
      exact h.signals
    · rw [hmore]
      exact iff_of_true hdestroyed (badLength_append hbad chunk)
    · intro hopen
      rw [hdestroyed] at hopen
      cases hopen
  | false =>
    have hgood : ¬ BadLength (drain codec bytes).2 := fun hbad => by
      rw [h.destroyed.2 hbad] at hdestroyed
      cases hdestroyed
    have hmore := drain_append hgood chunk
    rw [if_neg Bool.false_ne_true, h.kept hdestroyed]
    simp only [invalidLength_mem_drain]
    refine ⟨?_, ?_, ?_⟩
    · rw [hmore, h.signals]
    · rw [hmore]
      split_ifs with hbad
      · exact iff_of_true rfl hbad
      · exact iff_of_false not_false hbad
    · rw [hmore]
      intro hopen
      split_ifs at hopen ⊢ with hbad
      · cases hopen
      · rfl

theorem received_receive {chunks : List (List UInt8)} :
    Received codec chunks.flatten (receive codec chunks) := by
  have hrun : ∀ (chunks : List (List UInt8)) (bytes : List UInt8) (receiver : Receiver),
      Received codec bytes receiver →
      Received codec (bytes ++ chunks.flatten)
        (Transition.run (Receiver.onData codec) receiver chunks) := by
    intro chunks
    induction chunks with
    | nil =>
      intro bytes receiver h
      rw [List.flatten_nil, List.append_nil]
      exact h
    | cons chunk rest ih =>
      intro bytes receiver h
      rw [List.flatten_cons, ← List.append_assoc]
      exact ih _ _ (h.onData chunk)
  exact hrun chunks [] {} received_initial

variable (codec) in
/-- What was sent arrives, however the bytes are cut; and of any bytes the connection emits
the same, however they are cut. -/
theorem receive_of_flatten :
    (∀ payloads : List Json, (∀ payload ∈ payloads, FramedConnection.Fits codec payload) →
      (∀ payload ∈ payloads, codec.Restores payload) →
      ∃ sender, FramedConnection.sendAll codec {} payloads = .ok sender ∧
        ∀ chunks, chunks.flatten = sender.wire codec →
          receive codec chunks = { connection := {}, signals := payloads.map .frame }) ∧
    ∀ chunks other : List (List UInt8), chunks.flatten = other.flatten →
      (receive codec chunks).signals = (receive codec other).signals := by
  constructor
  · intro payloads hfits hrestores
    refine ⟨_, FramedConnection.sendAll_of_fits rfl rfl hfits, ?_⟩
    intro chunks hcut
    have hwire : FramedConnection.wire codec { sent := [] ++ payloads } =
        payloads.flatMap (packet codec) := rfl
    have hdecoded : (frames codec).decode (payloads.flatMap (packet codec)) =
        (payloads.map Signal.frame, []) := by
      apply Decoder.decode_flatMap
      · exact next_of_not_wholeFrame fun h => absurd h.1 (by simp)
      · exact fun payload hmem => encodes_packet (hfits payload hmem) (hrestores payload hmem)
    have hdrain : drain codec chunks.flatten = (payloads.map Signal.frame, []) := by
      rw [hcut, hwire, drain_eq_decode, hdecoded, lastSignals, if_neg not_badLength_nil,
        List.append_nil]
    obtain ⟨hsignals, hdestroyed, hkept⟩ := @received_receive codec chunks
    rw [hdrain] at hsignals hdestroyed hkept
    have hopen : (receive codec chunks).connection.destroyed = false :=
      Bool.eq_false_iff.2 fun h => not_badLength_nil (hdestroyed.1 h)
    have hconnection := hkept hopen
    generalize receive codec chunks = receiver at hsignals hconnection
    cases receiver
    cases hsignals
    cases hconnection
    rfl
  · intro chunks other hsame
    rw [received_receive.signals, received_receive.signals, hsame]

def cutHeartbeat : List (List UInt8) :=
  let bytes := packet (.plain []) (.obj [("type", .str "heartbeat")])
  [bytes.take 2, (bytes.drop 2).take 7, bytes.drop 9]

theorem receive_cutHeartbeat :
    receive (.plain [.obj [("type", .str "heartbeat")]]) cutHeartbeat =
      { connection := {}, signals := [.frame (.obj [("type", .str "heartbeat")])] } := by
  have hfits : ∀ payload ∈ [Json.obj [("type", .str "heartbeat")]],
      FramedConnection.Fits (.plain [.obj [("type", .str "heartbeat")]]) payload := by
    intro payload hmem
    rw [List.mem_singleton.1 hmem]
    exact FramedConnection.fits_plain (by decide +kernel)
  have hrestores : ∀ payload ∈ [Json.obj [("type", .str "heartbeat")]],
      (Codec.plain [.obj [("type", .str "heartbeat")]]).Restores payload := by
    intro payload hmem
    rw [List.mem_singleton.1 hmem]
    refine ⟨?_, by decide +kernel⟩
    intro data hdata
    cases hdata
    decide +kernel
  obtain ⟨sender, hsend, harrives⟩ :=
    (receive_of_flatten (.plain [.obj [("type", .str "heartbeat")]])).1 _ hfits hrestores
  have hsender : sender = { sent := [.obj [("type", .str "heartbeat")]] } := by
    have hsent := @FramedConnection.sendAll_of_fits _ {} _ rfl rfl hfits
    exact Except.ok.inj (hsend.symm.trans hsent)
  apply harrives
  rw [hsender]
  decide +kernel

end Tunnara.Relay
