/-
# What other events leave of a stream

An edge opens a stream, sends on it and closes it; the Relay looks the route up in
between. The other events, of other edges, of agents and of timers, touch neither
the lookup nor the entry of the stream, and write nothing of it to an agent, unless
another edge uses its id or its agent ends it.
-/

import Tunnara.Relay.Cleanup
import Tunnara.Relay.Requests
import Tunnara.Relay.Written

namespace Tunnara.Relay

open State Attempt Transition OrdMap

variable (env : Env) {streamId : Json}

/-! ## What a move makes of an edge -/

section Moves

variable {env : Env} {start state next : State} {event : Event}

/-- How an edge goes on through a move. -/
structure Continues (env : Env) (start : State) (event : Event) (edge clock : ℕ)
    (conn later : EdgeConnection) : Prop where
  streamId : later.streamId = conn.streamId ∨
    ∃ frame, SentByEdge env start event edge frame ∧
      later.streamId = Key.of clock (frame.get? "streamId")
  sent : conn.framed.sent <+: later.framed.sent
  silent : conn.framed.silent = true → later.framed.silent = true
  gone : later.gone = conn.gone ∨ event = .edgeClose edge ∧ later.framed.destroyed = true
  destroyed : conn.framed.destroyed = true → later.framed.destroyed = true

theorem Continues.refl (edge clock : ℕ) (conn : EdgeConnection) :
    Continues env start event edge clock conn conn :=
  ⟨.inl rfl, List.prefix_rfl, id, .inl rfl, id⟩

theorem Continues.tell (edge clock : ℕ) (conn : EdgeConnection) (payload : Json) :
    Continues env start event edge clock conn (if conn.framed.silent then conn
      else { conn with framed.sent := conn.framed.sent ++ [payload] }) := by
  split_ifs
  · exact .refl edge clock conn
  · exact ⟨.inl rfl, List.prefix_append _ _, id, .inl rfl, id⟩

theorem Continues.close {edge clock : ℕ} {conn later : EdgeConnection}
    (h : Continues env start event edge clock conn later) :
    Continues env start event edge clock conn { later with framed := later.framed.close } where
  streamId := h.streamId
  sent := (sent_close later.framed).symm ▸ h.sent
  silent hsilent := silent_close.trans (h.silent hsilent)
  gone := h.gone.imp id fun hclosed => ⟨hclosed.1, destroyed_close.trans hclosed.2⟩
  destroyed hdestroyed := destroyed_close.trans (h.destroyed hdestroyed)

section

variable (h : Move env start event state next)
include h

theorem Move.continues {edge : ℕ} {conn : EdgeConnection}
    (hconn : state.edgeConns.get? edge = some conn) :
    ∃ later, next.edgeConns.get? edge = some later ∧
      Continues env start event edge state.clock conn later := by
  have hsame : ∀ {next : State}, next.edgeConns = state.edgeConns →
      ∃ later, next.edgeConns.get? edge = some later ∧
        Continues env start event edge state.clock conn later := by
    intro next hedges
    exact ⟨conn, by rw [hedges, hconn], .refl _ _ conn⟩
  have htold : ∀ other payload, ∃ later, (state.told other payload).edgeConns.get? edge =
      some later ∧ Continues env start event edge state.clock conn later := by
    intro other payload
    by_cases heq : edge = other
    · subst heq
      exact ⟨_, edge_told hconn, .tell _ _ conn payload⟩
    · exact ⟨conn, (edge_told_of_ne heq payload).trans hconn, .refl _ _ conn⟩
  have hclosed : ∀ other payload, ∃ later,
      ((state.told other payload).closeEdge other).edgeConns.get? edge = some later ∧
        Continues env start event edge state.clock conn later := by
    intro other payload
    obtain ⟨later, hlater, hcontinues⟩ := htold other payload
    unfold closeEdge modifyEdge
    by_cases heq : edge = other
    · subst heq
      rw [get?_update_self, hlater]
      exact ⟨_, rfl, hcontinues.close⟩
    · exact ⟨later, (get?_update_of_ne _ heq _).trans hlater, hcontinues⟩
  cases h with
  | register => exact hsame (sameTraffic_register _ _ _).edges
  | loseAgent => exact hsame (sameTraffic_lose _ _ _ _).edges
  | @newEdge _ other hnew =>
    have hne : edge ≠ other := by
      rintro rfl
      rw [hconn] at hnew
      cases hnew
    exact ⟨conn, (get?_set_of_ne _ hne _).trans hconn, .refl _ _ conn⟩
  | @changeEdge _ other old new hold hid hgone hsent hended hsilent hdestroyed =>
    by_cases heq : edge = other
    · subst heq
      rw [hconn] at hold
      cases hold
      exact ⟨new, get?_set_self _ _ _,
        .inl hid, hsent ▸ List.prefix_rfl, hsilent, .inl hgone, hdestroyed⟩
    · exact ⟨conn, (get?_set_of_ne _ heq _).trans hconn, .refl _ _ conn⟩
  | tellEdge => exact htold _ _
  | refuse => exact hclosed _ _
  | @loseEdge _ other _ hevent _ =>
    rw [edgeConns_loseEdge, endEdge, modifyEdge]
    by_cases heq : edge = other
    · subst heq
      rw [get?_update_self, hconn]
      exact ⟨_, rfl, .inl rfl, List.prefix_rfl, fun _ => rfl, .inr ⟨hevent, rfl⟩, fun _ => rfl⟩
    · rw [get?_update_of_ne _ heq, hconn]
      exact ⟨conn, rfl, .refl _ _ conn⟩
  | @openStream _ other frame hsent =>
    change ∃ later, (state.setStreamId other _).edgeConns.get? edge = some later ∧ _
    rw [setStreamId, modifyEdge]
    by_cases heq : edge = other
    · subst heq
      rw [get?_update_self, hconn]
      exact ⟨_, rfl, .inr ⟨frame, hsent, rfl⟩, List.prefix_rfl, id, .inl rfl, id⟩
    · rw [get?_update_of_ne _ heq, hconn]
      exact ⟨conn, rfl, .refl _ _ conn⟩
  | @answer _ _ entry payload cleared =>
    have hedges : ∀ {key}, ((((state.told entry.edge payload).closeEdge entry.edge).clearTimeout
        cleared).dropPending key).edgeConns =
        ((state.told entry.edge payload).closeEdge entry.edge).edgeConns := by
      intro key
      cases cleared <;> rfl
    rw [hedges]
    exact hclosed _ _
  | @dropProbe _ _ _ cleared => cases cleared <;> exact hsame rfl
  | _ => exact hsame rfl

theorem Move.edge_of_none {edge : ℕ} (hnone : state.edgeConns.get? edge = none) :
    next.edgeConns.get? edge = none ∨ next.edgeConns.get? edge = some {} := by
  rcases h.edge edge with hedge | ⟨-, conn, hconn, -⟩
  · rw [hnone] at hedge
    generalize next.edgeConns.get? edge = later at hedge
    cases hedge with
    | same => exact .inl rfl
    | new => exact .inr rfl
  · rw [hnone] at hconn
    cases hconn

theorem Move.streamIdOf (edge : ℕ) :
    next.streamIdOf edge = state.streamIdOf edge ∨
      ∃ frame, SentByEdge env start event edge frame ∧
        next.streamIdOf edge = Key.of state.clock (frame.get? "streamId") := by
  unfold State.streamIdOf
  cases hconn : state.edgeConns.get? edge with
  | none =>
    rcases h.edge_of_none hconn with hnext | hnext
    · exact .inl (by rw [hnext])
    · exact .inl (by rw [hnext])
  | some conn =>
    obtain ⟨later, hlater, hcontinues⟩ := h.continues hconn
    rw [hlater]
    exact hcontinues.streamId

end

/-! ## What a move makes of a stream -/

/-- What may end or replace the entry of a stream. -/
inductive TouchesStream (env : Env) (start : State) (event : Event) (state : State) (key : Key) :
    Prop
  | ended {entry : Entry} (hentry : state.streams.get? key = some entry)
      (hends : EndsStream env start event state key entry)
  | closed {edge : ℕ} (hevent : event = .edgeClose edge) (hid : state.streamIdOf edge = key)
  | entered {lookup : Lookup} {route : Route} (hanswers : Answers start event lookup route)
      (hkind : lookup.kind = .streamOpen) (hkey : key.value = lookup.frame.get? "streamId")

theorem value_keyOf {identity : ℕ} {value : Option Json} : (Key.of identity value).value = value := by
  unfold Key.of
  split <;> rfl

theorem Move.stream_eq (h : Move env start event state next) {key : Key} :
    next.streams.get? key = state.streams.get? key ∨ TouchesStream env start event state key := by
  cases h with
  | register => exact .inl (by rw [(sameTraffic_register _ _ _).streams])
  | loseAgent => exact .inl (by rw [(sameTraffic_lose _ _ _ _).streams])
  | tellEdge | refuse => exact .inl (congrArg (OrdMap.get? · key) (streams_told _ _ _))
  | @loseEdge _ edge conn hevent hconn =>
    unfold State.loseEdge
    split_ifs
    · by_cases hkey : conn.streamId = key
      · refine .inr (.closed hevent ?_)
        unfold State.streamIdOf
        rw [hconn]
        exact hkey
      · exact .inl (get?_erase_of_ne _ (Ne.symm hkey))
    · exact .inl rfl
  | @addStream id lookup route tunnel target connection hevent hlookup hkind hto =>
    by_cases hkey : key = Key.of lookup.identity (lookup.frame.get? "streamId")
    · exact .inr (.entered ⟨id, hevent, hlookup⟩ hkind (hkey ▸ value_keyOf))
    · exact .inl (get?_set_of_ne _ hkey _)
  | @answer _ _ _ _ cleared =>
    left
    have hstreams : ∀ {requestId edge payload}, ((((state.told edge payload).closeEdge
        edge).clearTimeout cleared).dropPending requestId).streams = state.streams := by
      intro requestId edge payload
      cases cleared <;> exact streams_told state edge payload
    rw [hstreams]
  | @dropProbe _ _ _ cleared => cases cleared <;> exact .inl rfl
  | @dropStream _ other entry hentry hends =>
    by_cases hkey : key = other
    · subst hkey
      exact .inr (.ended hentry hends)
    · exact .inl (get?_erase_of_ne _ hkey)
  | _ => exact .inl rfl

theorem Move.lookup_kept (h : Move env start event state next) {id : ℕ} {lookup : Lookup}
    (hlookup : state.lookups.get? id = some lookup) (hold : id < state.clock) :
    next.lookups.get? id = some lookup ∨ ∃ route, event = .routeResolved id route := by
  have hasked : ∀ asked : Lookup,
      (state.lookups.set state.clock asked).get? id = some lookup := by
    intro asked
    rw [get?_set_of_ne _ hold.ne, hlookup]
  have hanswered : ∀ {other route}, event = .routeResolved other route →
      (state.lookups.erase other).get? id = some lookup ∨
        ∃ route, event = .routeResolved id route := by
    intro other route hevent
    by_cases heq : id = other
    · subst heq
      exact .inr ⟨route, hevent⟩
    · exact .inl ((get?_erase_of_ne _ heq).trans hlookup)
  cases h with
  | register => exact .inl (by rw [(sameTraffic_register _ _ _).lookups, hlookup])
  | loseAgent => exact .inl (by rw [(sameTraffic_lose _ _ _ _).lookups, hlookup])
  | tellEdge | refuse => exact .inl ((lookups_told _ _ _).symm ▸ hlookup)
  | loseEdge =>
    unfold State.loseEdge
    split <;> exact .inl hlookup
  | openStream | awaitRoute => exact .inl (hasked _)
  | forgetLookup hevent | addPending hevent | addStream hevent | addSession _ hevent
  | addProbe _ hevent => exact hanswered hevent
  | @answer _ _ _ _ cleared =>
    left
    have hlookups : ∀ {requestId edge payload}, ((((state.told edge payload).closeEdge
        edge).clearTimeout cleared).dropPending requestId).lookups = state.lookups := by
      intro requestId edge payload
      cases cleared <;> exact lookups_told state edge payload
    rwa [hlookups]
  | @dropProbe _ _ _ cleared => cases cleared <;> exact .inl hlookup
  | _ => exact .inl hlookup

end Moves

/-! ## What other events write -/

variable {log : ℕ → List Json}

/-- The event concerns the stream: it is of its edge, or its edge's lookup is answered. -/
def Concerns (state : State) (edge : ℕ) (event : Event) : Prop :=
  (∃ chunk, event = .edgeData edge chunk) ∨ event = .edgeClose edge ∨
    ∃ lookup route, Answers state event lookup route ∧ lookup.kind = .streamOpen ∧
      lookup.edge = edge

/-- No other edge opened the stream or has asked for it. -/
structure Alone (edge : ℕ) (streamId : Json) (state : State) : Prop where
  others : ∀ other, other ≠ edge → (state.streamIdOf other).value ≠ some streamId
  requests : ∀ id lookup, state.lookups.get? id = some lookup → lookup.kind = .streamOpen →
    lookup.edge ≠ edge → lookup.frame.get? "streamId" ≠ some streamId
  numbered : ∀ id lookup, state.lookups.get? id = some lookup → id ≤ state.clock

/-- No other edge sends a frame that names the stream. -/
def Unshared (edge : ℕ) (streamId : Json) (state : State) (event : Event) : Prop :=
  ∀ other frame, other ≠ edge → SentByEdge env state event other frame →
    frame.get? "streamId" ≠ some streamId

theorem logged_run {σ : Type} {signals : List σ} {handler : State → σ → State} {state : State}
    (hstep : ∀ state, ∀ signal ∈ signals, Logged streamId log state →
      Logged streamId log (handler state signal))
    (h : Logged streamId log state) : Logged streamId log (run handler state signals) := by
  induction signals generalizing state with
  | nil => exact h
  | cons signal rest ih =>
    apply ih
    · exact fun state other hother => hstep state other (List.mem_cons_of_mem _ hother)
    · exact hstep state signal List.mem_cons_self h

theorem logged_withAgent {state : State} {connection : ℕ} {enabled : AgentConnection → Bool}
    {f : AgentConnection → State} (h : Logged streamId log state)
    (hf : ∀ agent, Logged streamId log (f agent)) :
    Logged streamId log (withAgent state connection enabled f) := by
  unfold withAgent
  split
  · exact h
  · split
    · exact hf _
    · exact h

theorem logged_withEdge {state : State} {edge : ℕ} {enabled : EdgeConnection → Bool}
    {f : EdgeConnection → State} (h : Logged streamId log state)
    (hf : ∀ conn, state.edgeConns.get? edge = some conn → enabled conn = true →
      Logged streamId log (f conn)) : Logged streamId log (withEdge state edge enabled f) := by
  unfold withEdge
  split
  · exact h
  · split
    · exact hf _ ‹_› ‹_›
    · exact h

theorem logged_step {edge : ℕ} {state : State} {event : Event} (h : Logged streamId log state)
    (halone : Alone edge streamId state) (hunshared : Unshared env edge streamId state event)
    (hother : ¬ Concerns state edge event) : Logged streamId log (step env state event) := by
  unfold step
  split
  · exact h
  have htick : Logged streamId log state.tick := h
  cases event with
  | agentConnect connection =>
    simp only [handle]
    split
    · exact htick
    · rename_i hnew
      have hnone : state.tick.agentConns.get? connection = none := by simpa using hnew
      apply htick.put
      rw [← htick connection]
      unfold received
      rw [hnone]
      rfl
  | edgeConnect other =>
    simp only [handle]
    split
    · exact htick
    · exact htick.congr rfl
  | agentData connection chunk =>
    apply logged_withAgent htick
    intro agent
    apply logged_run
    · exact fun state signal _ h => logged_agentSignal env h connection signal
    · exact htick.modify connection fun _ => rfl
  | edgeData other chunk =>
    apply logged_withEdge htick
    intro conn hconn hopen
    have hne : other ≠ edge := by
      rintro rfl
      exact hother (.inl ⟨chunk, rfl⟩)
    apply logged_run
    · intro state signal hsignal h
      apply logged_edgeSignal env h
      rintro frame rfl
      exact hunshared other frame hne ⟨chunk, conn, rfl, hconn, by simpa using hopen, hsignal⟩
    · exact htick.congr rfl
  | agentEnd connection =>
    exact logged_withAgent htick fun _ => htick.modify connection fun _ => rfl
  | edgeEnd other => exact logged_withEdge htick fun _ _ _ => htick.congr rfl
  | agentError connection =>
    exact logged_withAgent htick fun _ => htick.modify connection fun _ => rfl
  | edgeError other => exact logged_withEdge htick fun _ _ _ => htick.congr rfl
  | agentClose connection =>
    apply logged_withAgent htick
    intro agent
    apply logged_callback (keeps_logged_onAgentClose env connection agent.agentId)
    exact htick.modify connection fun _ => rfl
  | edgeClose other =>
    apply logged_withEdge htick
    intro conn hconn _
    have hne : other ≠ edge := by
      rintro rfl
      exact hother (.inr (.inl rfl))
    have hid : state.streamIdOf other = conn.streamId := by
      have hfound : state.edgeConns.get? other = some conn := hconn
      unfold streamIdOf
      rw [hfound]
    apply logged_callback (keeps_logged_onEdgeClose env (hid ▸ halone.others other hne))
    exact htick.congr rfl
  | authTimeout connection =>
    apply logged_withAgent htick
    intro _
    have hcleared : Logged streamId log (state.tick.clearAuthTimer connection) :=
      htick.modify connection fun _ => rfl
    exact hcleared.modify connection fun _ => rfl
  | authenticated connection result =>
    exact logged_withAgent htick fun _ =>
      logged_voidAsync (keeps_logged_onAuthenticated env connection result) htick
  | presenceSettled connection =>
    apply logged_withAgent htick
    intro agent
    split
    · exact htick
    · exact logged_voidAsync (keeps_logged_onPresence env connection _) htick
  | routeResolved id route =>
    simp only [handle]
    split
    · exact htick
    · rename_i lookup hlookup
      apply logged_voidAsync
      · apply keeps_logged_onRoute
        intro hkind
        apply halone.requests id lookup hlookup hkind
        intro hedge
        exact hother (.inr (.inr ⟨lookup, route, ⟨id, rfl, hlookup⟩, hkind, hedge⟩))
      · exact htick.congr rfl
  | heartbeatSettled id =>
    simp only [handle]
    split
    · exact htick
    · apply logged_voidAsync
      · apply Keeps.get_bind
        exact fun _ => keeps_logged_heartbeatAck env _ _
      · exact htick.congr rfl
  | timerFired id =>
    simp only [handle]
    split
    · exact htick
    · apply logged_callback (readsAgents_logged.booked.keeps_onTimer env _)
      exact htick.congr rfl

/-! ## What other events leave -/

/-- The edge was sent the frame, unless nothing was written to it any more. -/
def State.Informed (state : State) (edge : ℕ) (payload : Json) : Prop :=
  ∃ conn, state.edgeConns.get? edge = some conn ∧
    (payload ∈ conn.framed.sent ∨ conn.framed.silent = true)

/-- The agent of the stream neither ends it nor disconnects. -/
structure AgentStays (start : State) (event : Event) (streamId : Json) (entry : Entry) : Prop where
  connected : ¬ Disconnects start event entry.agentId
  silent : ∀ frame, SentByAgent env start event entry.agentId frame →
    hasType frame "stream_close" = true → frame.get? "streamId" ≠ some streamId

/-- The stream, its lookup and what its edge was told are left as they were. -/
structure SameView (edge : ℕ) (streamId : Json) (state next : State) : Prop where
  current : next.streamIdOf edge = state.streamIdOf edge
  lookups : ∀ id lookup, lookup.kind = .streamOpen → lookup.edge = edge →
    (next.lookups.get? id = some lookup ↔ state.lookups.get? id = some lookup)
  streams : ∀ key, key.value = some streamId → next.streams.get? key = state.streams.get? key
  gone : next.EdgeGone edge ↔ state.EdgeGone edge
  informed : ∀ payload, state.Informed edge payload → next.Informed edge payload

theorem SameView.refl (edge : ℕ) (streamId : Json) (state : State) :
    SameView edge streamId state state :=
  ⟨rfl, fun _ _ _ _ => Iff.rfl, fun _ _ => rfl, Iff.rfl, fun _ => id⟩

theorem SameView.trans {edge : ℕ} {first second third : State}
    (h : SameView edge streamId first second) (h' : SameView edge streamId second third) :
    SameView edge streamId first third where
  current := h'.current.trans h.current
  lookups id lookup hkind hedge :=
    (h'.lookups id lookup hkind hedge).trans (h.lookups id lookup hkind hedge)
  streams key hkey := (h'.streams key hkey).trans (h.streams key hkey)
  gone := h'.gone.trans h.gone
  informed payload hinformed := h'.informed payload (h.informed payload hinformed)

section Bystanders

variable {env : Env} {start state next : State} {event : Event} {edge : ℕ}

section

variable (h : Alone edge streamId state)
include h

theorem Alone.move (hunshared : Unshared env edge streamId start event)
    (hmove : Move env start event state next) : Alone edge streamId next where
  others other hne := by
    rcases hmove.streamIdOf other with hsame | ⟨frame, hsent, hnew⟩
    · rw [hsame]
      exact h.others other hne
    · rw [hnew, value_keyOf]
      exact hunshared other frame hne hsent
  requests id lookup hlookup hkind hne := by
    rcases hmove.lookup hlookup with hbefore | ⟨-, hsent⟩
    · exact h.requests id lookup hbefore hkind hne
    · exact hunshared lookup.edge lookup.frame hne hsent
  numbered id lookup hlookup := by
    rcases hmove.lookup hlookup with hbefore | ⟨rfl, -⟩
    · exact (h.numbered id lookup hbefore).trans hmove.clock_le
    · exact hmove.clock_le

theorem Alone.tick : Alone edge streamId state.tick :=
  ⟨h.others, h.requests, fun id lookup hlookup => (h.numbered id lookup hlookup).trans
    (Nat.le_succ _)⟩

theorem alone_step (hunshared : Unshared env edge streamId state event)
    (halive : ¬ (step env state event).Crashed) : Alone edge streamId (step env state event) := by
  have hunsharedTick : Unshared env edge streamId state.tick event := hunshared
  have hmoves := moves_of_step halive
  generalize step env state event = last at hmoves
  induction hmoves with
  | refl => exact h.tick
  | tail _ hmove ih => exact ih.move hunsharedTick hmove

end

theorem Move.informed (h : Move env start event state next) {payload : Json}
    (hinformed : state.Informed edge payload) : next.Informed edge payload := by
  obtain ⟨conn, hconn, htold⟩ := hinformed
  obtain ⟨later, hlater, hcontinues⟩ := h.continues hconn
  exact ⟨later, hlater, htold.imp hcontinues.sent.mem hcontinues.silent⟩

theorem Move.edgeGone_iff (h : Move env start event state next) (hopen : event ≠ .edgeClose edge) :
    next.EdgeGone edge ↔ state.EdgeGone edge := by
  unfold EdgeGone
  cases hconn : state.edgeConns.get? edge with
  | none =>
    rcases h.edge_of_none hconn with hnext | hnext
    · simp [hnext]
    · simp [hnext]
  | some conn =>
    obtain ⟨later, hlater, hcontinues⟩ := h.continues hconn
    have hgone : later.gone = conn.gone :=
      hcontinues.gone.resolve_right fun hclosed => hopen hclosed.1
    simp [hlater, hgone]

theorem sameView_move (hstart : Alone edge streamId start) (halone : Alone edge streamId state)
    (hunshared : Unshared env edge streamId start event) (hother : ¬ Concerns start edge event)
    (hstays : ∀ key entry, key.value = some streamId → state.streams.get? key = some entry →
      AgentStays env start event streamId entry)
    (hold : ∀ id lookup, lookup.kind = .streamOpen → lookup.edge = edge →
      state.lookups.get? id = some lookup → id < state.clock ∧ start.lookups.get? id = some lookup)
    (hmove : Move env start event state next) : SameView edge streamId state next := by
  have hsilent : ∀ frame, ¬ SentByEdge env start event edge frame := by
    rintro frame ⟨chunk, conn, hevent, -⟩
    exact hother (.inl ⟨chunk, hevent⟩)
  refine ⟨?_, ?_, ?_, ?_, fun _ => hmove.informed⟩
  · exact (hmove.streamIdOf edge).resolve_right fun ⟨frame, hsent, _⟩ => hsilent frame hsent
  · intro id lookup hkind hedge
    constructor
    · intro hnext
      rcases hmove.lookup hnext with hbefore | ⟨-, hsent⟩
      · exact hbefore
      · rw [hedge] at hsent
        exact absurd hsent (hsilent lookup.frame)
    · intro hbefore
      obtain ⟨hnumber, hasked⟩ := hold id lookup hkind hedge hbefore
      rcases hmove.lookup_kept hbefore hnumber with hnext | ⟨route, hevent⟩
      · exact hnext
      · exact absurd (.inr (.inr ⟨lookup, route, ⟨id, hevent, hasked⟩, hkind, hedge⟩)) hother
  · intro key hkey
    apply hmove.stream_eq.resolve_right
    rintro (⟨hentry, hends⟩ | ⟨hevent, hid⟩ | ⟨hanswers, hkind, hnamed⟩)
    · have hagent := hstays key _ hkey hentry
      rcases hends with ⟨frame, hsent, hclose, hid⟩ | hgone | ⟨other, frame, hsent, -, hid⟩
      · exact hagent.silent frame hsent hclose (hid.trans hkey)
      · exact hagent.connected hgone
      · have hne : other ≠ edge := by
          rintro rfl
          exact hsilent frame hsent
        exact halone.others other hne (hid ▸ hkey)
    · rename_i closed
      have hne : closed ≠ edge := by
        rintro rfl
        exact hother (.inr (.inl hevent))
      exact halone.others closed hne (hid ▸ hkey)
    · rename_i lookup route
      have hne : lookup.edge ≠ edge := by
        intro hedge
        exact hother (.inr (.inr ⟨lookup, route, hanswers, hkind, hedge⟩))
      obtain ⟨id, -, hlookup⟩ := hanswers
      exact hstart.requests id lookup hlookup hkind hne (hnamed ▸ hkey)
  · apply hmove.edgeGone_iff
    rintro rfl
    exact hother (.inr (.inl rfl))

theorem sameView_step (h : Alone edge streamId state)
    (hunshared : Unshared env edge streamId state event) (hother : ¬ Concerns state edge event)
    (hstays : ∀ key entry, key.value = some streamId → state.streams.get? key = some entry →
      AgentStays env state event streamId entry) (halive : ¬ (step env state event).Crashed) :
    SameView edge streamId state (step env state event) := by
  have hunsharedTick : Unshared env edge streamId state.tick event := hunshared
  have hotherTick : ¬ Concerns state.tick edge event := hother
  have hmoves := moves_of_step halive
  generalize step env state event = last at hmoves
  suffices hchain : Alone edge streamId last ∧ SameView edge streamId state.tick last ∧
      state.tick.clock ≤ last.clock from by
    obtain ⟨-, hview, -⟩ := hchain
    exact ⟨hview.current, hview.lookups, hview.streams, hview.gone, hview.informed⟩
  induction hmoves with
  | refl => exact ⟨h.tick, .refl edge streamId state.tick, le_rfl⟩
  | tail _ hmove ih =>
    obtain ⟨halone, hview, hclock⟩ := ih
    have hnext := sameView_move h.tick halone hunsharedTick hotherTick ?stays ?old hmove
    case stays =>
      intro key entry hkey hentry
      have hagent := hstays key entry hkey ((hview.streams key hkey).symm.trans hentry)
      exact ⟨hagent.connected, hagent.silent⟩
    case old =>
      intro id lookup hkind hedge hlookup
      have hasked := (hview.lookups id lookup hkind hedge).1 hlookup
      exact ⟨(Nat.lt_succ_of_le (h.numbered id lookup hasked)).trans_le hclock, hasked⟩
    exact ⟨halone.move hunsharedTick hmove, hview.trans hnext, hclock.trans hmove.clock_le⟩

end Bystanders

end Tunnara.Relay
