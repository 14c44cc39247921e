/-
# A stream at the agent

`AgentRuntime.#streamOpen` connects a socket to the local service and puts it into
`streams` at once; the first bytes of the stream are written when it is connected.
What `#onFrame` is handed before that is written before them.

A write is in the order of the calls, also before the socket is connected. A write
after `end()` destroys the socket instead.
-/

import Tunnara.Edge.Sockets

namespace Tunnara.Agent

open Relay Edge

/-- The socket of one stream. -/
structure Upstream where
  opened : Bool := false
  /-- It is in `streams`. -/
  listed : Bool := false
  connected : Bool := false
  ended : Bool := false
  destroyed : Bool := false
  /-- The local service failed or ended its side. -/
  cut : Bool := false
  /-- The field that the `'connect'` listener reads. -/
  initial : Option Json := none
  written : List (List UInt8) := []
  /-- A value was no buffer, which ends the process. -/
  crashed : Bool := false

namespace Upstream

/-- What happens to the socket apart from frames. -/
inductive LocalEvent
  | connect
  | error
  | ended
  | close

/-- `socket.write(data)`. -/
def write (upstream : Upstream) (data : List UInt8) : Upstream :=
  if upstream.destroyed then upstream
  else if upstream.ended then { upstream with destroyed := true, listed := false }
  else { upstream with written := upstream.written ++ [data] }

variable (env : Env)

/-- `#streamOpen`, if the agent may connect to the target. -/
def streamOpen (upstream : Upstream) (allowed : Bool) (frame : Json) : Upstream :=
  if allowed then
    { upstream with opened := true, listed := true, initial := frame.get? "initialDataBase64" }
  else upstream

/-- `#onFrame`, on the frames of the stream. -/
def onFrame (upstream : Upstream) (allowed : Bool) (frame : Json) : Upstream :=
  if hasType frame "stream_open" then upstream.streamOpen allowed frame
  else if hasType frame "stream_data" then
    if upstream.listed then
      match bufferFrom env (frame.get? "dataBase64") with
      | .error _ => { upstream with crashed := true }
      | .ok data => upstream.write data
    else upstream
  else if hasType frame "stream_close" then
    if upstream.listed then { upstream with ended := true, listed := false } else upstream
  else upstream

/-- The `'connect'` listener. -/
def onConnect (upstream : Upstream) : Upstream :=
  match bufferFrom env upstream.initial with
  | .error _ => { upstream with connected := true, crashed := true }
  | .ok initial =>
    if initial = [] then { upstream with connected := true }
    else { upstream with connected := true }.write initial

/-- The socket is not connected yet. -/
def Connecting (upstream : Upstream) : Prop :=
  upstream.opened = true ∧ upstream.connected = false ∧ upstream.destroyed = false

instance (upstream : Upstream) : Decidable upstream.Connecting :=
  inferInstanceAs (Decidable (_ ∧ _ ∧ _))

/-- An event that cannot occur changes nothing. Node ends a socket whose other side has
ended. -/
def onLocal (upstream : Upstream) (event : LocalEvent) : Upstream :=
  if ¬ upstream.opened ∨ upstream.destroyed then upstream
  else match event with
    | .connect => if upstream.connected then upstream else upstream.onConnect env
    | .error => { upstream with destroyed := true, listed := false, cut := true }
    | .ended => if upstream.connected then { upstream with ended := true, cut := true } else upstream
    | .close => { upstream with
        destroyed := true, listed := false, cut := upstream.cut || !upstream.ended }

/-- The service has received the first bytes of the stream and then those of the frames, up
to a failure of its own. -/
structure Carries (initial : List UInt8) (frames : List Json) (upstream : Upstream) : Prop where
  new : frames = [] → upstream = {}
  first : upstream.opened = true → bufferFrom env upstream.initial = .ok initial
  unopened : upstream.opened = false →
    upstream.listed = false ∧ upstream.connected = false ∧ upstream.cut = false
  connecting : upstream.Connecting → upstream.listed = true ∧ upstream.ended = false ∧
    upstream.written = [] ∧
    ∀ frame ∈ frames, hasType frame "stream_data" = false ∧ hasType frame "stream_close" = false
  received : upstream.written.flatten <+: initial ++ carriedBy env frames
  complete : upstream.connected = true → upstream.cut = false →
    upstream.written.flatten = initial ++ carriedBy env frames
  live : upstream.connected = true → upstream.cut = false →
    (∀ frame ∈ frames, hasType frame "stream_close" = false) →
    upstream.listed = true ∧ upstream.ended = false ∧ upstream.destroyed = false
  stopped : upstream.cut = true → upstream.listed = false ∨ upstream.ended = true
  gone : upstream.destroyed = true → upstream.listed = false

variable {env} {initial : List UInt8} {frames : List Json} {upstream : Upstream}

theorem carries_new {env : Env} {initial : List UInt8} : Carries env initial [] {} where
  new _ := rfl
  first h := by cases h
  unopened _ := ⟨rfl, rfl, rfl⟩
  connecting h := by cases h.1
  received := List.nil_prefix
  complete h := by cases h
  live h := by cases h
  stopped h := by cases h
  gone h := by cases h

theorem carriedBy_append (frames : List Json) (frame : Json) :
    carriedBy env (frames ++ [frame]) = carriedBy env frames ++
      (if hasType frame "stream_data" then
        (bufferFrom env (frame.get? "dataBase64")).toOption.getD [] else []) := by
  unfold carriedBy
  rw [List.filter_append, List.flatMap_append]
  split_ifs with hdata <;> simp [hdata]

theorem carries_streamOpen {frame : Json} {allowed : Bool}
    (hopen : hasType frame "stream_open" = true)
    (hinitial : bufferFrom env (frame.get? "initialDataBase64") = .ok initial) :
    Carries env initial [frame] (onFrame env {} allowed frame) := by
  have hdata : hasType frame "stream_data" = false := hasType_other hopen _ (by decide)
  have hclose : hasType frame "stream_close" = false := hasType_other hopen _ (by decide)
  have hnone : carriedBy env [frame] = [] := by
    have happend := @carriedBy_append env [] frame
    rw [hdata] at happend
    exact happend
  rw [onFrame, if_pos hopen, streamOpen]
  cases allowed with
  | false =>
    exact ⟨nofun, nofun, fun _ => ⟨rfl, rfl, rfl⟩, fun h => (by cases h.1), List.nil_prefix,
      nofun, nofun, nofun, nofun⟩
  | true =>
    refine ⟨nofun, fun _ => hinitial, nofun, fun _ => ⟨rfl, rfl, rfl, ?_⟩, List.nil_prefix,
      nofun, nofun, nofun, nofun⟩
    intro other hother
    rw [List.mem_singleton.1 hother]
    exact ⟨hdata, hclose⟩

section

variable (h : Carries env initial frames upstream)
include h

theorem Carries.of_listed (hlisted : upstream.listed = true) (hconnecting : ¬ upstream.Connecting) :
    upstream.opened = true ∧ upstream.connected = true ∧ upstream.destroyed = false := by
  have hpresent : upstream.destroyed = false := by
    by_contra hdestroyed
    rw [h.gone (by simpa using hdestroyed)] at hlisted
    cases hlisted
  have hopened : upstream.opened = true := by
    by_contra hunopened
    rw [(h.unopened (by simpa using hunopened)).1] at hlisted
    cases hlisted
  have hconnected : upstream.connected = true := by
    by_contra hunconnected
    exact hconnecting ⟨hopened, by simpa using hunconnected, hpresent⟩
  exact ⟨hopened, hconnected, hpresent⟩

theorem Carries.cut_iff_ended (hlisted : upstream.listed = true)
    (hconnected : upstream.connected = true)
    (hopen : ∀ frame ∈ frames, hasType frame "stream_close" = false) :
    upstream.cut = true ↔ upstream.ended = true := by
  constructor
  · intro hcut
    exact (h.stopped hcut).resolve_left (by simp [hlisted])
  · intro hended
    by_contra huncut
    rw [(h.live hconnected (by simpa using huncut) hopen).2.1] at hended
    cases hended

omit h in
theorem carriedBy_append_data (frames : List Json) (streamId : String) (chunk : List UInt8) :
    carriedBy env (frames ++ [streamDataFrame streamId chunk]) =
      carriedBy env frames ++ chunk := by
  have hfield : (streamDataFrame streamId chunk).get? "dataBase64" =
      text (Base64.encode chunk) := rfl
  rw [carriedBy_append, if_pos (hasType_streamDataFrame streamId chunk), hfield, bufferFrom_encode]
  rfl

theorem Carries.data (allowed : Bool) (hconnecting : ¬ upstream.Connecting)
    (hopen : ∀ frame ∈ frames, hasType frame "stream_close" = false) (streamId : String)
    (chunk : List UInt8) : Carries env initial (frames ++ [streamDataFrame streamId chunk])
      (upstream.onFrame env allowed (streamDataFrame streamId chunk)) := by
  have htype := hasType_streamDataFrame streamId chunk
  have hother : hasType (streamDataFrame streamId chunk) "stream_open" = false :=
    hasType_other htype _ (by decide)
  have hfield : (streamDataFrame streamId chunk).get? "dataBase64" =
      text (Base64.encode chunk) := rfl
  have hgrows : initial ++ carriedBy env frames <+:
      initial ++ carriedBy env (frames ++ [streamDataFrame streamId chunk]) := by
    rw [carriedBy_append_data, ← List.append_assoc]
    exact List.prefix_append _ _
  rw [onFrame, if_neg (by simp [hother]), if_pos htype]
  cases hlisted : upstream.listed with
  | false =>
    have hcut : upstream.connected = true → ¬ upstream.cut = false := by
      intro hconnected huncut
      rw [(h.live hconnected huncut hopen).1] at hlisted
      cases hlisted
    rw [if_neg (by simp)]
    exact ⟨by simp, h.first, h.unopened, fun hstill => absurd hstill hconnecting,
      h.received.trans hgrows, fun hconnected huncut => absurd huncut (hcut hconnected),
      fun hconnected huncut => absurd huncut (hcut hconnected), h.stopped, h.gone⟩
  | true =>
    obtain ⟨hopened, hconnected, hpresent⟩ := h.of_listed hlisted hconnecting
    have hcut := h.cut_iff_ended hlisted hconnected hopen
    rw [if_pos rfl, hfield, bufferFrom_encode]
    dsimp only
    rw [write, if_neg (by simp [hpresent])]
    cases hended : upstream.ended with
    | true =>
      have hcut := hcut.2 hended
      rw [if_pos rfl]
      exact ⟨by simp, h.first, fun hno => by simp [hopened] at hno,
        fun hstill => by simp [Connecting] at hstill, h.received.trans hgrows,
        fun _ huncut => by simp [hcut] at huncut, fun _ huncut => by simp [hcut] at huncut,
        fun _ => .inl rfl, fun _ => rfl⟩
    | false =>
      have huncut : upstream.cut = false := by
        by_contra hno
        rw [hcut.1 (by simpa using hno)] at hended
        cases hended
      have hall : (upstream.written ++ [chunk]).flatten =
          initial ++ carriedBy env (frames ++ [streamDataFrame streamId chunk]) := by
        rw [carriedBy_append_data, List.flatten_append, h.complete hconnected huncut,
          List.append_assoc]
        simp
      rw [if_neg (by simp)]
      exact ⟨by simp, h.first, fun hno => by simp [hopened] at hno,
        fun hstill => absurd hstill hconnecting, hall ▸ List.prefix_refl _, fun _ _ => hall,
        fun _ _ _ => ⟨hlisted, rfl, hpresent⟩, fun hcut => by simp [huncut] at hcut,
        fun hdestroyed => by simp [hpresent] at hdestroyed⟩

theorem Carries.close (allowed : Bool) (hconnecting : ¬ upstream.Connecting) {frame : Json}
    (hclose : hasType frame "stream_close" = true) :
    Carries env initial (frames ++ [frame]) (upstream.onFrame env allowed frame) := by
  have hopen : hasType frame "stream_open" = false := hasType_other hclose _ (by decide)
  have hdata : hasType frame "stream_data" = false := not_data_of_close hclose
  have hsame : carriedBy env (frames ++ [frame]) = carriedBy env frames := by
    rw [carriedBy_append, if_neg (by simp [hdata]), List.append_nil]
  have hclosed : ¬ ∀ other ∈ frames ++ [frame], hasType other "stream_close" = false := by
    intro hall
    rw [hall frame (by simp)] at hclose
    cases hclose
  rw [onFrame, if_neg (by simp [hopen]), if_neg (by simp [hdata]), if_pos hclose]
  cases hlisted : upstream.listed with
  | false =>
    rw [if_neg (by simp)]
    exact ⟨by simp, h.first, h.unopened, fun hstill => absurd hstill hconnecting,
      hsame ▸ h.received, hsame ▸ h.complete, fun _ _ hall => absurd hall hclosed, h.stopped, h.gone⟩
  | true =>
    obtain ⟨hopened, hconnected, hpresent⟩ := h.of_listed hlisted hconnecting
    rw [if_pos rfl]
    exact ⟨by simp, h.first, fun hno => by simp [hopened] at hno,
      fun hstill => by simp [Connecting, hconnected] at hstill, hsame ▸ h.received,
      hsame ▸ h.complete, fun _ _ hall => absurd hall hclosed, fun _ => .inl rfl, fun _ => rfl⟩

theorem Carries.connect (hconnecting : upstream.Connecting) :
    Carries env initial frames (upstream.onConnect env) := by
  obtain ⟨hlisted, hended, hwritten, hframes⟩ := h.connecting hconnecting
  obtain ⟨hopened, -, hpresent⟩ := hconnecting
  have hnone : carriedBy env frames = [] := by
    unfold carriedBy
    rw [List.filter_eq_nil_iff.2 fun frame hframe => by simp [(hframes frame hframe).1]]
    rfl
  have hne : frames ≠ [] := by
    intro hnil
    rw [h.new hnil] at hopened
    cases hopened
  have huncut : upstream.cut = false := by
    by_contra hcut
    rcases h.stopped (by simpa using hcut) with hno | hno
    · rw [hlisted] at hno
      cases hno
    · rw [hended] at hno
      cases hno
  rw [onConnect, h.first hopened]
  dsimp only
  split_ifs with hempty
  · have hall : upstream.written.flatten = initial ++ carriedBy env frames := by
      simp [hwritten, hnone, hempty]
    exact ⟨fun hnil => absurd hnil hne, h.first, fun hno => by simp [hopened] at hno,
      fun hstill => by simp [Connecting] at hstill, hall ▸ List.prefix_refl _, fun _ _ => hall,
      fun _ _ _ => ⟨hlisted, hended, hpresent⟩, h.stopped, h.gone⟩
  · have hall : (upstream.written ++ [initial]).flatten = initial ++ carriedBy env frames := by
      simp [hwritten, hnone]
    rw [write, if_neg (by simp [hpresent]), if_neg (by simp [hended])]
    exact ⟨fun hnil => absurd hnil hne, h.first, fun hno => by simp [hopened] at hno,
      fun hstill => by simp [Connecting] at hstill, hall ▸ List.prefix_refl _, fun _ _ => hall,
      fun _ _ _ => ⟨hlisted, hended, hpresent⟩, h.stopped, h.gone⟩

theorem Carries.broken {next : Upstream} (hne : frames ≠ []) (hopened : next.opened = true)
    (hinitial : next.initial = upstream.initial) (hwritten : next.written = upstream.written)
    (hcut : next.cut = true) (hconnecting : ¬ next.Connecting)
    (hover : next.listed = false ∨ next.ended = true)
    (hgone : next.destroyed = true → next.listed = false) (hbefore : upstream.opened = true) :
    Carries env initial frames next where
  new hnil := absurd hnil hne
  first _ := by rw [hinitial]; exact h.first hbefore
  unopened hno := by simp [hopened] at hno
  connecting hstill := absurd hstill hconnecting
  received := by rw [hwritten]; exact h.received
  complete _ huncut := by simp [hcut] at huncut
  live _ huncut := by simp [hcut] at huncut
  stopped _ := hover
  gone := hgone

theorem Carries.closed (hne : frames ≠ []) (hopened : upstream.opened = true)
    (hended : upstream.ended = true) :
    Carries env initial frames { upstream with destroyed := true, listed := false } where
  new hnil := absurd hnil hne
  first := h.first
  unopened hno := by simp [hopened] at hno
  connecting hstill := by simp [Connecting] at hstill
  received := h.received
  complete := h.complete
  live hconnected huncut hopen := by
    have hlive := (h.live hconnected huncut hopen).2.1
    rw [hended] at hlive
    cases hlive
  stopped _ := .inl rfl
  gone _ := rfl

theorem Carries.onLocal (event : LocalEvent) :
    Carries env initial frames (upstream.onLocal env event) := by
  unfold Upstream.onLocal
  by_cases hidle : ¬ upstream.opened ∨ upstream.destroyed
  · rw [if_pos hidle]
    exact h
  · rw [if_neg hidle]
    rw [not_or, not_not] at hidle
    obtain ⟨hopened, hpresent⟩ := hidle
    have hne : frames ≠ [] := by
      intro hnil
      rw [h.new hnil] at hopened
      cases hopened
    cases event with
    | connect =>
      split_ifs with hconnected
      · exact h
      · exact h.connect ⟨hopened, by simpa using hconnected, by simpa using hpresent⟩
    | error =>
      exact h.broken hne hopened rfl rfl rfl (fun hstill => by simp [Connecting] at hstill)
        (.inl rfl) (fun _ => rfl) hopened
    | ended =>
      split_ifs with hconnected
      · exact h.broken hne hopened rfl rfl rfl
          (fun hstill => by simp [Connecting, hconnected] at hstill) (.inr rfl) h.gone hopened
      · exact h
    | close =>
      by_cases hended : upstream.ended = true
      · have hclosed := h.closed hne hopened hended
        simpa [hended] using hclosed
      · exact h.broken hne hopened rfl rfl (by simp [hended])
          (fun hstill => by simp [Connecting] at hstill) (.inl rfl) (fun _ => rfl) hopened

end

end Upstream

end Tunnara.Agent
