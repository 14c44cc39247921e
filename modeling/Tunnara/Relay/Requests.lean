/-
# One answer per proxied request

A request that was handed to an agent waits in `pending` until its agent answers, its agent
disconnects or its timer fires. Whichever comes first takes the entry away with its timer, tells
the edge and ends the edge's connection; what comes later finds no entry.
-/

import Tunnara.Relay.Waiting

namespace Tunnara.Relay

open State Attempt Transition OrdMap

variable {env : Env} {start state next : State} {event : Event}

/-- The answers to proxied requests that were written to the edge. -/
def EdgeConnection.answers (conn : EdgeConnection) : List Json :=
  conn.framed.sent.filter isAnswer

/-- Nothing more will be written to the edge. -/
def EdgeConnection.Finished (conn : EdgeConnection) : Prop :=
  conn.framed.ended = true ∨ conn.framed.silent = true

/-- The edge is told no answer, and what was finished or silent stays so. -/
structure EdgeConnection.Quiet (conn later : EdgeConnection) : Prop where
  answers : later.answers = conn.answers
  finished : conn.Finished → later.Finished
  silent : conn.framed.silent = true → later.framed.silent = true

/-- The edge is told its one answer and is finished. -/
structure EdgeConnection.Told (conn : EdgeConnection) (payload : Json) (later : EdgeConnection) :
    Prop where
  before : ¬ conn.Finished
  answers : later.answers = conn.answers ++ [payload]
  ended : later.framed.ended = true

theorem EdgeConnection.Quiet.refl (conn : EdgeConnection) : conn.Quiet conn :=
  ⟨rfl, id, id⟩

/-! ## What a move writes to an edge -/

variable {edge : ℕ} {conn : EdgeConnection} {key : Key} {entry : Entry} {requestId : Option Json}

theorem edge_answered {payload : Json} (hconn : state.edgeConns.get? edge = some conn)
    (hcan : state.CanTell edge) (hanswer : isAnswer payload = true) :
    ∃ later, ((state.told edge payload).closeEdge edge).edgeConns.get? edge = some later ∧
      (conn.framed.silent = true ∧ conn.Quiet later ∨ conn.Told payload later) := by
  have hended : conn.framed.silent = false → conn.framed.ended = false :=
    hcan conn.framed (by simp [edgeFramed, hconn])
  have hclosed : ((state.told edge payload).closeEdge edge).edgeConns.get? edge =
      ((state.told edge payload).edgeConns.get? edge).map fun conn =>
        { conn with framed := conn.framed.close } := get?_update_self _ _ _
  rw [hclosed, edge_told hconn]
  cases hsilent : conn.framed.silent with
  | true =>
    refine ⟨_, rfl, .inl ⟨rfl, ?_, ?_, ?_⟩⟩
    · exact congrArg (List.filter isAnswer) (sent_close conn.framed)
    · exact fun _ => .inr (silent_close.trans hsilent)
    · exact fun _ => silent_close.trans hsilent
  | false =>
    have hopen : conn.framed.closed = false := by
      exact (Bool.or_eq_false_iff.1 hsilent).1
    refine ⟨_, rfl, .inr ⟨?_, ?_, ?_⟩⟩
    · rintro (h | h)
      · rw [hended hsilent] at h
        cases h
      · rw [hsilent] at h
        cases h
    · simp [EdgeConnection.answers, FramedConnection.close, hopen, hanswer]
    · simp [FramedConnection.close, hopen]

theorem Move.tells (h : Move env start event state next)
    (hconn : state.edgeConns.get? edge = some conn) :
    ∃ later, next.edgeConns.get? edge = some later ∧
      (conn.Quiet later ∨ ∃ payload, conn.Told payload later) := by
  have hsame : ∀ {next : State}, next.edgeConns = state.edgeConns →
      ∃ later, next.edgeConns.get? edge = some later ∧
        (conn.Quiet later ∨ ∃ payload, conn.Told payload later) := by
    intro next hedges
    exact ⟨conn, by rw [hedges, hconn], .inl (.refl conn)⟩
  -- an answer is written to one edge and leaves the others alone
  have hanswer : ∀ {other payload}, state.CanTell other → isAnswer payload = true →
      ∃ later, ((state.told other payload).closeEdge other).edgeConns.get? edge = some later ∧
        (conn.Quiet later ∨ ∃ payload, conn.Told payload later) := by
    intro other payload hcan hanswer
    by_cases heq : edge = other
    · subst heq
      obtain ⟨later, hlater, hquiet | htold⟩ := edge_answered hconn hcan hanswer
      · exact ⟨later, hlater, .inl hquiet.2⟩
      · exact ⟨later, hlater, .inr ⟨payload, htold⟩⟩
    · refine ⟨conn, ?_, .inl (.refl conn)⟩
      have hclosed : ((state.told other payload).closeEdge other).edgeConns.get? edge =
          (state.told other payload).edgeConns.get? edge := get?_update_of_ne _ heq _
      rw [hclosed, edge_told_of_ne heq, hconn]
  cases h with
  | register => exact hsame (sameTraffic_register _ _ _).edges
  | loseAgent => exact hsame (sameTraffic_lose _ _ _ _).edges
  | @newEdge _ other hnew =>
    have hne : edge ≠ other := by
      rintro rfl
      rw [hconn] at hnew
      cases hnew
    exact ⟨conn, (get?_set_of_ne _ hne _).trans hconn, .inl (.refl conn)⟩
  | @changeEdge _ other old new hold _ _ hsent hended hsilent _ =>
    by_cases heq : edge = other
    · subst heq
      rw [hconn] at hold
      cases hold
      refine ⟨new, get?_set_self _ _ _, .inl ⟨?_, ?_, hsilent⟩⟩
      · exact congrArg (List.filter isAnswer) hsent
      · exact fun h => h.imp hended hsilent
    · exact ⟨conn, (get?_set_of_ne _ heq _).trans hconn, .inl (.refl conn)⟩
  | @tellEdge _ other payload _ hquiet =>
    by_cases heq : edge = other
    · subst heq
      refine ⟨_, edge_told hconn, .inl ?_⟩
      split_ifs
      · exact .refl conn
      · exact ⟨by simp [EdgeConnection.answers, hquiet], id, id⟩
    · exact ⟨conn, (edge_told_of_ne heq payload).trans hconn, .inl (.refl conn)⟩
  | refuse hcan _ _ hpayload _ => exact hanswer hcan hpayload
  | @loseEdge _ other closed _ hclosed =>
    rw [edgeConns_loseEdge, endEdge, modifyEdge]
    by_cases heq : edge = other
    · subst heq
      rw [get?_update_self, hconn]
      exact ⟨_, rfl, .inl ⟨rfl, fun _ => .inr rfl, fun _ => rfl⟩⟩
    · rw [get?_update_of_ne _ heq, hconn]
      exact ⟨conn, rfl, .inl (.refl conn)⟩
  | @openStream _ other frame _ =>
    change ∃ later, (state.setStreamId other _).edgeConns.get? edge = some later ∧ _
    rw [setStreamId, modifyEdge]
    by_cases heq : edge = other
    · subst heq
      rw [get?_update_self, hconn]
      exact ⟨_, rfl, .inl ⟨rfl, id, id⟩⟩
    · rw [get?_update_of_ne _ heq, hconn]
      exact ⟨conn, rfl, .inl (.refl conn)⟩
  | @answer _ _ entry payload cleared _ hcan hpayload _ _ =>
    have hedges : ∀ {key}, ((((state.told entry.edge payload).closeEdge entry.edge).clearTimeout
        cleared).dropPending key).edgeConns =
        ((state.told entry.edge payload).closeEdge entry.edge).edgeConns := by
      intro key
      cases cleared <;> rfl
    rw [hedges]
    exact hanswer hcan hpayload
  | @dropProbe _ _ _ cleared => cases cleared <;> exact hsame rfl
  | _ => exact hsame rfl

/-! ## The requests and their timers -/

/-- A proxied request is entered under an id that no waiting request has. -/
def FreshIds (env : Env) (state : State) (event : Event) : Prop :=
  ∀ id lookup route, event = .routeResolved id route → state.lookups.get? id = some lookup →
    lookup.kind = .proxyRequest →
    state.pending.get? (keyOrFresh env lookup "requestId" state.tick) = none

/-- The same of a state whose clock has ticked. -/
def PendingFresh (env : Env) (start : State) (event : Event) : Prop :=
  ∀ id lookup route, event = .routeResolved id route → start.lookups.get? id = some lookup →
    lookup.kind = .proxyRequest →
    start.pending.get? (keyOrFresh env lookup "requestId" start) = none

/-- Requests and their timers go together and are counted; their edges are there, and an
edge that was told an answer is finished. -/
structure Accounted (state : State) : Prop where
  timers : TimersKept state
  named : ∀ id key, state.timers.get? id = some (.proxyRequest key) →
    ∃ entry, state.pending.get? key = some entry ∧ entry.timer = some id
  active : state.activeProxyRequests = state.pending.size
  asked : ∀ id lookup, state.lookups.get? id = some lookup → state.edgeConns.get? lookup.edge ≠ none
  waiting : ∀ key entry, state.pending.get? key = some entry →
    state.edgeConns.get? entry.edge ≠ none
  finished : ∀ edge conn, state.edgeConns.get? edge = some conn → conn.answers ≠ [] → conn.Finished

theorem accounted_initial : Accounted initial where
  timers := timersKept_initial
  named _ _ h := by cases h
  active := rfl
  asked _ _ h := by cases h
  waiting _ _ h := by cases h
  finished _ _ h := by cases h

namespace Accounted

/-- The part of it that is about the requests and their timers. -/
structure Counted (state : State) : Prop where
  named : ∀ id key, state.timers.get? id = some (.proxyRequest key) →
    ∃ entry, state.pending.get? key = some entry ∧ entry.timer = some id
  active : state.activeProxyRequests = state.pending.size

section

variable (h : Counted state)
include h

theorem Counted.congr (hpending : next.pending = state.pending)
    (htimers : next.timers = state.timers)
    (hactive : next.activeProxyRequests = state.activeProxyRequests) : Counted next where
  named := by
    rw [hpending, htimers]
    exact h.named
  active := by
    rw [hpending, hactive]
    exact h.active

theorem Counted.traffic (hsame : state.SameTraffic next) : Counted next :=
  h.congr hsame.pending hsame.timers hsame.active

theorem Counted.stop (cleared : Option ℕ) :
    Counted (state.clearTimeout cleared) where
  named id key htimer := by
    cases cleared with
    | none => exact h.named id key htimer
    | some other => exact h.named id key (get?_of_get?_erase htimer).2
  active := by
    cases cleared <;> exact h.active

theorem Counted.drop {cleared : Option ℕ} (hentry : state.pending.get? key = some entry)
    (hcleared : cleared = entry.timer) :
    Counted ((state.clearTimeout cleared).dropPending key) where
  named id other htimer := by
    have hbefore : state.timers.get? id = some (.proxyRequest other) ∧ cleared ≠ some id := by
      cases cleared with
      | none => exact ⟨htimer, nofun⟩
      | some own =>
        obtain ⟨hne, htimer⟩ := get?_of_get?_erase htimer
        exact ⟨htimer, fun h => hne (Option.some.inj h).symm⟩
    obtain ⟨found, hfound, hid⟩ := h.named id other hbefore.1
    have hne : other ≠ key := by
      rintro rfl
      rw [hentry] at hfound
      cases hfound
      exact hbefore.2 (hcleared.trans hid)
    refine ⟨found, ?_, hid⟩
    have hpending : ((state.clearTimeout cleared).dropPending key).pending =
        state.pending.erase key := by
      cases cleared <;> rfl
    rw [hpending, get?_erase_of_ne _ hne, hfound]
  active := by
    have hpending : ((state.clearTimeout cleared).dropPending key).pending =
        state.pending.erase key := by
      cases cleared <;> rfl
    have hactive : ((state.clearTimeout cleared).dropPending key).activeProxyRequests =
        state.activeProxyRequests - 1 := by
      cases cleared <;> rfl
    rw [hpending, hactive, size_erase hentry, h.active]

omit h in
theorem cleared_eq (hnamed : ∀ id key, state.timers.get? id = some (.proxyRequest key) →
      ∃ entry, state.pending.get? key = some entry ∧ entry.timer = some id) {cleared : Option ℕ}
    (hentry : state.pending.get? key = some entry)
    (hcleared : Spends event state entry (· = .proxyRequest key) cleared) :
    cleared = entry.timer := by
  rcases hcleared with hown | ⟨id, timer, -, htimer, rfl, rfl⟩
  · exact hown
  · obtain ⟨found, hfound, hid⟩ := hnamed id key htimer
    rw [hentry] at hfound
    cases hfound
    exact hid.symm

theorem Counted.move (hstart : Counted start) (hfresh : PendingFresh env start event)
    (hmove : Move env start event state next) : Counted next := by
  cases hmove with
  | register => exact h.traffic (sameTraffic_register _ _ _)
  | loseAgent => exact h.traffic (sameTraffic_lose _ _ _ _)
  | tellEdge | refuse => exact h.congr (pending_told ..) (timers_told ..) (active_told ..)
  | loseEdge =>
    unfold State.loseEdge
    split <;> exact h.congr rfl rfl rfl
  | @addPending id lookup route tunnel target connection hevent hlookup hkind =>
    have hnew := hfresh id lookup route hevent hlookup hkind
    refine ⟨fun other key htimer => ?_, ?_⟩
    · have hset : (start.timers.set start.clock (.proxyRequest
          (keyOrFresh env lookup "requestId" start))).get? other = some (.proxyRequest key) := htimer
      rw [get?_set] at hset
      split_ifs at hset with hother
      · cases hset
        exact ⟨_, get?_set_self _ _ _, congrArg some hother.symm⟩
      · obtain ⟨entry, hentry, hid⟩ := hstart.named other key hset
        have hne : key ≠ keyOrFresh env lookup "requestId" start := by
          rintro rfl
          rw [hnew] at hentry
          cases hentry
        exact ⟨entry, (get?_set_of_ne _ hne _).trans hentry, hid⟩
    · have hsize := size_set_new hnew (⟨lookup.edge, target.agentId, some start.clock,
        connection⟩ : Entry)
      exact (congrArg (· + 1) hstart.active).trans hsize.symm
  | @addProbe id lookup route target connection probeId =>
    refine ⟨fun other key htimer => ?_, hstart.active⟩
    have hset : (start.timers.set start.clock (.healthProbe probeId target.id)).get? other =
        some (.proxyRequest key) := htimer
    rw [get?_set] at hset
    split_ifs at hset
    · cases hset
    · exact hstart.named other key hset
  | @answer _ key entry payload cleared hentry _ _ _ hcleared =>
    have htold : Counted ((state.told entry.edge payload).closeEdge entry.edge) :=
      h.congr (pending_told ..) (timers_told ..) (active_told ..)
    apply htold.drop
    · change (state.told entry.edge payload).pending.get? key = some entry
      rw [pending_told, hentry]
    · exact cleared_eq h.named hentry hcleared
  | @dropProbe _ _ _ cleared => exact (h.stop cleared).congr rfl rfl rfl
  | idleTimer => exact hstart.stop _
  | forgetLookup | addStream | addSession => exact hstart.congr rfl rfl rfl
  | _ => exact h.congr rfl rfl rfl

end

theorem counted (h : Accounted state) : Counted state := ⟨h.named, h.active⟩

theorem move (h : Accounted state) (hstart : Accounted start)
    (hfree : ∀ id timer, start.timers.get? id = some timer → id < start.clock)
    (hthere : ∀ edge, start.edgeConns.get? edge ≠ none → state.edgeConns.get? edge ≠ none)
    (hfresh : PendingFresh env start event) (hmove : Move env start event state next) :
    Accounted next := by
  have hcounted := h.counted.move hstart.counted hfresh hmove
  refine ⟨h.timers.move hstart.timers hfree hmove, hcounted.named, hcounted.active, ?_, ?_, ?_⟩
  · exact fun _ _ => hmove.asked hthere h.asked
  · intro key entry hentry
    rcases hmove.request hentry with hbefore | henters
    · exact hmove.edge_ne_none (h.waiting key entry hbefore)
    · obtain ⟨⟨lookup, route, -, -, -, ⟨id, -, hlookup⟩, -, hedge, -⟩, hedges⟩ := henters
      rw [hedges, ← hedge]
      exact hstart.asked id lookup hlookup
  · intro edge later hlater hanswers
    cases hbefore : state.edgeConns.get? edge with
    | none =>
      rcases hmove.edge edge with hedge | ⟨-, conn, hconn, -⟩
      · rw [hbefore, hlater] at hedge
        cases hedge with
        | new => exact absurd rfl hanswers
      · rw [hbefore] at hconn
        cases hconn
    | some conn =>
      obtain ⟨found, hfound, hquiet | ⟨payload, htold⟩⟩ := hmove.tells hbefore
      · rw [hlater] at hfound
        cases hfound
        rw [hquiet.answers] at hanswers
        exact hquiet.finished (h.finished edge conn hbefore hanswers)
      · rw [hlater] at hfound
        cases hfound
        exact .inl htold.ended

theorem chain (h : Accounted start)
    (hfree : ∀ id timer, start.timers.get? id = some timer → id < start.clock)
    (hfresh : PendingFresh env start event)
    (hmoves : Relation.ReflTransGen (Move env start event) start state) :
    Accounted state ∧
      ∀ edge, start.edgeConns.get? edge ≠ none → state.edgeConns.get? edge ≠ none := by
  induction hmoves with
  | refl => exact ⟨h, fun _ h => h⟩
  | tail _ hmove ih =>
    exact ⟨ih.1.move h hfree ih.2 hfresh hmove, fun edge h => hmove.edge_ne_none (ih.2 edge h)⟩

end Accounted

/-! ## The life of a request -/

structure Waiting (state : State) (key : Key) (entry : Entry) (timer : ℕ) : Prop where
  entered : state.pending.get? key = some entry
  running : state.timers.get? timer = some (.proxyRequest key)

/-- The timer is cleared or spent, no entry has it any more, and unless the edge's
connection is gone exactly one answer was written to it, the one to this request. -/
structure Answered (state : State) (key : Key) (edge timer : ℕ) : Prop where
  spent : state.timers.get? timer = none
  gone : ∀ other entry, state.pending.get? other = some entry → entry.timer ≠ some timer
  told : ∀ conn, state.edgeConns.get? edge = some conn → conn.framed.silent = false →
    ∃ frame, conn.answers = [frame] ∧ frame.get? "requestId" = key.value

/-- The edge is finished, and unless its connection is gone it was told one answer. -/
def ToldOnce (state : State) (edge : ℕ) (requestId : Option Json) : Prop :=
  ∃ conn, state.edgeConns.get? edge = some conn ∧ conn.Finished ∧
    (conn.framed.silent = false → ∃ frame, conn.answers = [frame] ∧
      frame.get? "requestId" = requestId)

/-- The same as answered, with what makes it last. -/
structure Done (state : State) (key : Key) (edge timer : ℕ) : Prop where
  spent : state.timers.get? timer = none
  gone : ∀ other entry, state.pending.get? other = some entry → entry.timer ≠ some timer
  told : ToldOnce state edge key.value

theorem ToldOnce.of_get? (h : ToldOnce state edge requestId)
    (hconn : state.edgeConns.get? edge = some conn) :
    conn.framed.silent = false → ∃ frame, conn.answers = [frame] ∧
      frame.get? "requestId" = requestId := by
  obtain ⟨found, hfound, -, htold⟩ := h
  rw [hconn] at hfound
  cases hfound
  exact htold

theorem Done.answered {timer : ℕ} (h : Done state key edge timer) : Answered state key edge timer :=
  ⟨h.spent, h.gone, fun _ hconn => h.told.of_get? hconn⟩

theorem ToldOnce.move (h : ToldOnce state edge requestId)
    (hmove : Move env start event state next) : ToldOnce next edge requestId := by
  obtain ⟨conn, hconn, hfinished, htold⟩ := h
  obtain ⟨later, hlater, hquiet | ⟨payload, hanswer⟩⟩ := hmove.tells hconn
  · refine ⟨later, hlater, hquiet.finished hfinished, fun hopen => ?_⟩
    rw [hquiet.answers]
    apply htold
    cases hsilent : conn.framed.silent with
    | false => rfl
    | true =>
      rw [hquiet.silent hsilent] at hopen
      cases hopen
  · exact absurd hfinished hanswer.before

theorem toldOnce_told {edge : ℕ} {payload : Json}
    (hfinished : ∀ edge conn, state.edgeConns.get? edge = some conn → conn.answers ≠ [] →
      conn.Finished) (hthere : state.edgeConns.get? edge ≠ none) (hcan : state.CanTell edge)
    (hanswer : isAnswer payload = true) :
    ToldOnce ((state.told edge payload).closeEdge edge) edge (payload.get? "requestId") := by
  obtain ⟨conn, hconn⟩ := Option.ne_none_iff_exists'.1 hthere
  obtain ⟨later, hlater, ⟨hsilent, hquiet⟩ | htold⟩ := edge_answered hconn hcan hanswer
  · refine ⟨later, hlater, .inr (hquiet.silent hsilent), fun hopen => ?_⟩
    rw [hquiet.silent hsilent] at hopen
    cases hopen
  · refine ⟨later, hlater, .inl htold.ended, fun _ => ⟨payload, ?_, rfl⟩⟩
    have hnone : conn.answers = [] := by
      by_contra hanswers
      exact htold.before (hfinished edge conn hconn hanswers)
    rw [htold.answers, hnone, List.nil_append]

theorem Move.timer (h : Move env start event state next) {timer : ℕ} {running : Timer}
    (hold : timer < start.clock) (hrunning : next.timers.get? timer = some running) :
    state.timers.get? timer = some running := by
  have hset : ∀ {set : Timer}, (start.timers.set start.clock set).get? timer = some running →
      start.timers.get? timer = some running := by
    intro set hset
    rwa [get?_set_of_ne _ hold.ne] at hset
  have hcleared : ∀ (state : State) (cleared : Option ℕ),
      (state.clearTimeout cleared).timers.get? timer = some running →
      state.timers.get? timer = some running := by
    intro state cleared h
    cases cleared with
    | none => exact h
    | some id => exact (get?_of_get?_erase h).2
  cases h with
  | register => rwa [(sameTraffic_register _ _ _).timers] at hrunning
  | loseAgent => rwa [(sameTraffic_lose _ _ _ _).timers] at hrunning
  | tellEdge | refuse => exact (timers_told _ _ _).symm ▸ hrunning
  | loseEdge =>
    unfold State.loseEdge at hrunning
    split at hrunning <;> exact hrunning
  | addPending | addProbe => exact hset hrunning
  | @answer _ _ entry payload cleared =>
    have htold := hcleared ((state.told entry.edge payload).closeEdge entry.edge) cleared hrunning
    exact (timers_told state entry.edge payload).symm ▸ htold
  | dropProbe | idleTimer => exact hcleared _ _ hrunning
  | _ => exact hrunning

theorem Move.entry_timer (h : Move env start event state next) {timer : ℕ}
    (hold : timer < start.clock) (hentry : next.pending.get? key = some entry)
    (htimer : entry.timer = some timer) : state.pending.get? key = some entry := by
  cases h with
  | register => rwa [(sameTraffic_register _ _ _).pending] at hentry
  | loseAgent => rwa [(sameTraffic_lose _ _ _ _).pending] at hentry
  | tellEdge | refuse => exact (pending_told _ _ _).symm ▸ hentry
  | loseEdge =>
    unfold State.loseEdge at hentry
    split at hentry <;> exact hentry
  | @addPending id lookup route tunnel target connection =>
    have hset : (start.pending.set (keyOrFresh env lookup "requestId" start)
        { edge := lookup.edge, agentId := target.agentId, timer := some start.clock,
          via := connection }).get? key = some entry := hentry
    rw [get?_set] at hset
    split_ifs at hset
    · cases hset
      cases htimer
      exact absurd rfl hold.ne
    · exact hset
  | @answer _ other answered payload cleared =>
    have hpending : ((((state.told answered.edge payload).closeEdge answered.edge).clearTimeout
        cleared).dropPending other).pending = state.pending.erase other := by
      cases cleared <;> exact congrArg (OrdMap.erase · other) (pending_told state _ payload)
    rw [hpending] at hentry
    exact (get?_of_get?_erase hentry).2
  | @dropProbe _ _ _ cleared => cases cleared <;> exact hentry
  | _ => exact hentry

theorem Done.move {timer : ℕ} (h : Done state key edge timer) (hold : timer < start.clock)
    (hmove : Move env start event state next) : Done next key edge timer := by
  refine ⟨?_, ?_, ?_⟩
  · apply Option.eq_none_iff_forall_ne_some.2
    intro running hrunning
    have hbefore := hmove.timer hold hrunning
    rw [h.spent] at hbefore
    cases hbefore
  · intro other entry hentry htimer
    exact h.gone other entry (hmove.entry_timer hold hentry htimer) htimer
  · exact h.told.move hmove

theorem Waiting.congr {timer : ℕ} (h : Waiting state key entry timer)
    (hpending : next.pending = state.pending) (htimers : next.timers = state.timers) :
    Waiting next key entry timer :=
  ⟨by rw [hpending, h.entered], by rw [htimers, h.running]⟩

theorem Waiting.stop {key : Key} {entry : Entry} {timer : ℕ} (h : Waiting state key entry timer)
    {cleared : Option ℕ} (hother : cleared ≠ some timer) :
    Waiting (state.clearTimeout cleared) key entry timer := by
  cases cleared with
  | none => exact h
  | some id =>
    have hne : timer ≠ id := fun heq => hother (congrArg some heq.symm)
    exact ⟨h.entered, (get?_erase_of_ne _ hne).trans h.running⟩

theorem Waiting.answer {key : Key} {entry : Entry} {timer : ℕ} {payload : Json}
    {cleared : Option ℕ} (h : Waiting state key entry timer) (haccount : Accounted state) (hcan : state.CanTell entry.edge)
    (hanswer : isAnswer payload = true) (hid : payload.get? "requestId" = key.value)
    (hcleared : cleared = some timer) :
    Done ((((state.told entry.edge payload).closeEdge entry.edge).clearTimeout
      cleared).dropPending key) key entry.edge timer := by
  subst hcleared
  refine ⟨?_, ?_, ?_⟩
  · exact get?_erase_self _ _
  · intro other found hfound hsame
    have hpending : (state.told entry.edge payload).pending = state.pending := pending_told _ _ _
    obtain ⟨hne, hbefore⟩ := get?_of_get?_erase hfound
    have hthere : state.pending.get? other = some found := by
      rw [← hpending]
      exact hbefore
    obtain ⟨id, hown, hrunning⟩ := haccount.timers.pending other found hthere
    rw [hsame] at hown
    cases hown
    rw [h.running] at hrunning
    cases hrunning
    exact hne rfl
  · rw [← hid]
    exact toldOnce_told haccount.finished (haccount.waiting key entry h.entered) hcan hanswer

theorem Waiting.move {timer : ℕ} (h : Waiting state key entry timer)
    (htimer : entry.timer = some timer) (haccount : Accounted state) (hold : timer < start.clock)
    (hfresh : PendingFresh env start event) (hmove : Move env start event state next) :
    Waiting next key entry timer ∨ Done next key entry.edge timer := by
  have hset : ∀ {other : Timer}, state.timers.get? timer = some (.proxyRequest key) →
      (state.timers.set start.clock other).get? timer = some (.proxyRequest key) := by
    intro other hrunning
    rwa [get?_set_of_ne _ hold.ne]
  cases hmove with
  | register =>
    have hsame := sameTraffic_register state
    exact .inl (h.congr (hsame _ _).pending (hsame _ _).timers)
  | loseAgent =>
    have hsame := sameTraffic_lose env state
    exact .inl (h.congr (hsame _ _).pending (hsame _ _).timers)
  | tellEdge | refuse => exact .inl (h.congr (pending_told _ _ _) (timers_told _ _ _))
  | loseEdge =>
    left
    unfold State.loseEdge
    split <;> exact h.congr rfl rfl
  | @addPending id lookup route tunnel target connection hevent hlookup hkind =>
    have hnew := hfresh id lookup route hevent hlookup hkind
    have hne : key ≠ keyOrFresh env lookup "requestId" start := by
      rintro rfl
      have hentered := h.entered
      rw [hnew] at hentered
      cases hentered
    exact .inl ⟨(get?_set_of_ne _ hne _).trans h.entered, hset h.running⟩
  | addProbe => exact .inl ⟨h.entered, hset h.running⟩
  | @answer _ other answered payload cleared hentry hcan hanswer hid hcleared =>
    have hown := Accounted.cleared_eq haccount.named hentry hcleared
    by_cases heq : other = key
    · subst heq
      have hentered := h.entered
      rw [hentry] at hentered
      cases hentered
      exact .inr (h.answer haccount hcan hanswer hid (hown.trans htimer))
    · left
      have htold : Waiting ((state.told answered.edge payload).closeEdge answered.edge)
          key entry timer := h.congr (pending_told _ _ _) (timers_told _ _ _)
      have hother : cleared ≠ some timer := by
        intro hsame
        obtain ⟨id, hid, hrunning⟩ := haccount.timers.pending other answered hentry
        rw [hown, hid] at hsame
        cases hsame
        rw [h.running] at hrunning
        cases hrunning
        exact heq rfl
      have hstopped := htold.stop hother
      have hne : key ≠ other := fun h => heq h.symm
      exact ⟨(get?_erase_of_ne _ hne).trans hstopped.entered, hstopped.running⟩
  | @dropProbe _ probeId probe cleared hentry hcleared =>
    left
    have hother : cleared ≠ some timer := by
      rintro rfl
      rcases hcleared with hown | ⟨id, fired, -, hfired, ⟨target, rfl⟩, hsame⟩
      · obtain ⟨id, target, hid, hrunning⟩ := haccount.timers.probes probeId probe hentry
        rw [hid] at hown
        cases hown
        rw [h.running] at hrunning
        cases hrunning
      · cases hsame
        rw [h.running] at hfired
        cases hfired
    have hstopped := h.stop hother
    exact ⟨hstopped.entered, hstopped.running⟩
  | @idleTimer id fired _ hfired hgone =>
    left
    apply h.stop
    intro hsame
    cases hsame
    rw [h.running] at hfired
    cases hfired
    have hentered := h.entered
    rw [show start.pending.get? key = none from hgone] at hentered
    cases hentered
  | _ => exact .inl (h.congr rfl rfl)

/-! ## Steps -/

theorem Move.clock_le (h : Move env start event state next) : state.clock ≤ next.clock := by
  cases h with
  | clock => exact Nat.le_succ state.clock
  | register => exact (sameTraffic_register _ _ _).clock.ge
  | loseAgent => exact (sameTraffic_lose _ _ _ _).clock.ge
  | tellEdge | refuse => exact (clock_told _ _ _).ge
  | loseEdge =>
    unfold State.loseEdge
    split <;> exact le_rfl
  | @answer _ _ _ _ cleared => cases cleared <;> exact (clock_told _ _ _).ge
  | @dropProbe _ _ _ cleared => cases cleared <;> exact le_rfl
  | _ => exact le_rfl

section Steps

variable (h : Accounted state) (hfresh : FreshIds env state event)
  (halive : ¬ (step env state event).Crashed)

include h hfresh halive

theorem step_chain : ∃ last, step env state event = last ∧
    Relation.ReflTransGen (fun mid next => Accounted mid ∧ Move env state.tick event mid next)
      state.tick last ∧ Accounted last ∧ state.clock < last.clock := by
  have htick : Accounted state.tick :=
    ⟨h.timers.tick, h.named, h.active, h.asked, h.waiting, h.finished⟩
  have hfree : ∀ id timer, state.tick.timers.get? id = some timer → id < state.tick.clock :=
    fun id timer htimer => Nat.lt_succ_of_le (h.timers.numbered id timer htimer)
  have hmoves := moves_of_step halive
  refine ⟨_, rfl, ?_, (htick.chain hfree hfresh hmoves).1, ?_⟩
  · generalize step env state event = last at hmoves
    induction hmoves with
    | refl => exact .refl
    | tail hbefore hmove ih => exact ih.tail ⟨(htick.chain hfree hfresh hbefore).1, hmove⟩
  · generalize step env state event = last at hmoves
    suffices hclock : state.tick.clock ≤ last.clock from hclock
    induction hmoves with
    | refl => exact le_rfl
    | tail _ hmove ih => exact ih.trans hmove.clock_le

theorem accounted_step : Accounted (step env state event) := by
  obtain ⟨last, hlast, -, haccount, -⟩ := step_chain h hfresh halive
  rwa [hlast]

theorem toldOnce_step (htold : ToldOnce state edge requestId) :
    ToldOnce (step env state event) edge requestId := by
  obtain ⟨last, hlast, hmoves, -⟩ := step_chain h hfresh halive
  rw [hlast]
  clear hlast
  induction hmoves with
  | refl => exact htold
  | tail _ hmove ih => exact ih.move hmove.2

theorem done_step {timer : ℕ} (hold : timer ≤ state.clock) (hdone : Done state key edge timer) :
    Done (step env state event) key edge timer := by
  obtain ⟨last, hlast, hmoves, -⟩ := step_chain h hfresh halive
  rw [hlast]
  clear hlast
  induction hmoves with
  | refl => exact ⟨hdone.spent, hdone.gone, hdone.told⟩
  | tail _ hmove ih => exact ih.move (Nat.lt_succ_of_le hold) hmove.2

theorem waiting_step {timer : ℕ} (htimer : entry.timer = some timer)
    (hwaiting : Waiting state key entry timer) :
    Waiting (step env state event) key entry timer ∨
      Done (step env state event) key entry.edge timer := by
  have hold : timer < state.tick.clock :=
    Nat.lt_succ_of_le (h.timers.numbered timer _ hwaiting.running)
  obtain ⟨last, hlast, hmoves, -⟩ := step_chain h hfresh halive
  rw [hlast]
  clear hlast
  induction hmoves with
  | refl => exact .inl ⟨hwaiting.entered, hwaiting.running⟩
  | tail _ hmove ih =>
    rcases ih with hwaits | hdone
    · exact hwaits.move htimer hmove.1 hold hfresh hmove.2
    · exact .inr (hdone.move hold hmove.2)

end Steps

end Tunnara.Relay
