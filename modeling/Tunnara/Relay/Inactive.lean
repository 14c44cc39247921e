/-
# Traffic of inactive tunnels

A tunnel whose status is not `active`, and what the Relay does with the three
frames that carry traffic of a client. The Laravel plane answers no route for such
a tunnel and the Node plane answers one with the status in it, which only the
handler of proxied requests reads.
-/

import Tunnara.Control.Routing
import Tunnara.Laravel.RouteResolver
import Tunnara.Relay.Cleanup

namespace Tunnara.Relay

open State Attempt Transition

/-- The tunnel of a route, as far as the Relay reads it. -/
def Tunnel.ofJson (tunnel : Json) : Tunnel := ⟨tunnel.get? "status", tunnel.get? "protocol"⟩

/-- The target of a route; every store names its agent by a text. -/
def Target.ofJson (target : Json) : Option Target :=
  match target.get? "agent_id" with
  | some (.str agentId) => some
      ⟨target.get? "id", agentId, target.get? "target_host", target.get? "target_port",
        target.get? "health_check"⟩
  | _ => none

def Route.ofJson (route : Json) : Route where
  tunnel := ((route.get? "tunnel").filter Json.truthy).map Tunnel.ofJson
  target := ((route.get? "target").filter Json.truthy).bind Target.ofJson

/-- Where `#getRoute` reads its routes. -/
inductive Store
  /-- The database of the same process. -/
  | node (db : Control.Database)
  /-- The Control API of the Node plane. -/
  | control (db : Control.Database)
  /-- The Control API of the Laravel plane, and the number it draws. -/
  | laravel (db : Laravel.Database) (pick : ℤ)

/-- `[0-9a-f-]+` with the flag `i`, which the path of a tunnel has to match. -/
def isPathId (id : String) : Bool :=
  id ≠ "" && id.toList.all fun c =>
    c.isDigit || c = '-' || ('a' ≤ c && c ≤ 'f') || ('A' ≤ c && c ≤ 'F')

namespace Store

/-- What `#getRoute` answers; a response that is not `ok` is a rejection. -/
def answer (tunnelId : String) (requested : Option String) : Store → Option Json
  | .node db => (db.resolveTunnelById tunnelId requested).1.map Control.Route.toJson
  | .control db =>
    if !isPathId tunnelId then none
    else match (db.resolveTunnelById tunnelId requested).1 with
      | some (.found tunnel target presence policy) =>
        some (Control.Route.found tunnel target presence policy).toJson
      | _ => none
  | .laravel db pick => (Laravel.routeByTunnel db tunnelId requested pick).toOption

/-- `await this.#getRoute(…).catch(() => null)`. -/
def getRoute (store : Store) (tunnelId : String) (requested : Option String) : Route :=
  ((store.answer tunnelId requested).map Route.ofJson).getD {}

def status (tunnelId : String) : Store → Option String
  | .node db | .control db => (db.getTunnel tunnelId).map Control.TunnelRow.status
  | .laravel db _ => (db.tunnels.get? tunnelId).map Laravel.TunnelRow.status

def Inactive (store : Store) (tunnelId : String) : Prop :=
  ∃ status, store.status tunnelId = some status ∧ status ≠ "active"

/-- The store answers routes of active tunnels only. -/
def Filters : Store → Prop
  | .laravel _ _ => True
  | _ => False

variable {store : Store} {tunnelId : String}

theorem Inactive.getRoute_of_filters (h : store.Inactive tunnelId) (hfilters : store.Filters)
    (requested : Option String) : store.getRoute tunnelId requested = {} := by
  obtain ⟨status, hstatus, hinactive⟩ := h
  cases store with
  | node db | control db => exact hfilters.elim
  | laravel db pick =>
    have hrows : ∀ row, db.tunnels.get? tunnelId = some row → row.status ≠ "active" := by
      intro row hrow
      rw [Store.status, hrow] at hstatus
      cases hstatus
      exact hinactive
    rw [getRoute, answer, Laravel.routeByTunnel, Laravel.byId_eq_none hrows]
    rfl

theorem tunnel_resolveTunnelById {db : Control.Database} {row : Control.TunnelRow}
    (hrow : db.getTunnel tunnelId = some row) {requested : Option String} {route : Control.Route}
    (hroute : (db.resolveTunnelById tunnelId requested).1 = some route) :
    (Route.ofJson route.toJson).tunnel = some ⟨text row.status, text row.protocol⟩ := by
  rw [Control.Database.resolveTunnelById, hrow] at hroute
  cases hroute
  unfold Control.Database.routeOf
  split <;> rfl

theorem Inactive.status_getRoute (h : store.Inactive tunnelId) {requested : Option String}
    {tunnel : Tunnel} (htunnel : (store.getRoute tunnelId requested).tunnel = some tunnel) :
    tunnel.status ≠ text "active" := by
  obtain ⟨status, hstatus, hinactive⟩ := h
  have hnode : ∀ {db : Control.Database} {route : Control.Route},
      (db.getTunnel tunnelId).map Control.TunnelRow.status = some status →
      (db.resolveTunnelById tunnelId requested).1 = some route →
      (Route.ofJson route.toJson).tunnel = some tunnel → tunnel.status ≠ text "active" := by
    intro db route hstatus hroute htunnel
    obtain ⟨row, hrow, rfl⟩ := Option.map_eq_some_iff.1 hstatus
    rw [tunnel_resolveTunnelById hrow hroute] at htunnel
    cases htunnel
    simpa [text] using hinactive
  cases store with
  | node db =>
    rw [getRoute, answer] at htunnel
    cases hroute : (db.resolveTunnelById tunnelId requested).1 with
    | none =>
      rw [hroute] at htunnel
      cases htunnel
    | some route =>
      rw [hroute] at htunnel
      exact hnode hstatus hroute htunnel
  | control db =>
    rw [getRoute, answer] at htunnel
    split_ifs at htunnel
    · cases htunnel
    · split at htunnel
      · exact hnode hstatus ‹_› htunnel
      · cases htunnel
  | laravel db pick =>
    rw [Inactive.getRoute_of_filters ⟨status, hstatus, hinactive⟩ trivial] at htunnel
    cases htunnel

end Store

def refusalType : LookupKind → String
  | .proxyRequest => "proxy_error"
  | .streamOpen => "stream_close"
  | .udpDatagram => "udp_close"
  | .healthProbe => "health_probe_response"

/-- No agent is sent anything and nothing is entered for the edge. -/
structure ForwardsNothing (before after : State) : Prop where
  agents : after.agentConns = before.agentConns
  pending : after.pending = before.pending
  streams : after.streams = before.streams
  sessions : after.udpSessions = before.udpSessions

/-- The edge of the lookup is sent one frame that refuses its request. -/
def AnswersRefusal (lookup : Lookup) (before after : State) : Prop :=
  ∃ conn later refusal, before.edgeConns.get? lookup.edge = some conn ∧
    after.edgeConns.get? lookup.edge = some later ∧
    later.framed.sent = conn.framed.sent ++ [refusal] ∧
    hasType refusal (refusalType lookup.kind) = true

/-- The request of the lookup is refused; if it opens a stream that is not open, so is
all the data of that stream. -/
structure Refuses (env : Env) (lookup : Lookup) (before after : State) : Prop where
  running : ¬ after.Crashed
  nothing : ForwardsNothing before after
  answered : AnswersRefusal lookup before after
  data : ∀ streamId, streamId = Key.of lookup.identity (lookup.frame.get? "streamId") →
    before.streams.get? streamId = none → ∀ frame, hasType frame "stream_data" = true →
      (exec (onEdgeStream env streamId frame) after).2 = after

/-- The edge can still be sent something. -/
def State.EdgeListens (state : State) (edge : ℕ) : Prop :=
  ∃ conn, state.edgeConns.get? edge = some conn ∧ conn.framed.silent = false

/-- The handler finds all it asks for but the status. -/
def Complete (state : State) (route : Route) : LookupKind → Prop
  | .proxyRequest | .streamOpen | .healthProbe => connectedTarget state route ≠ none
  | .udpDatagram => datagramTarget state route ≠ none

variable {env : Env} {state : State} {lookup : Lookup}

/-- The edge is told the frame, and its connection may be ended. -/
def Tells (state : State) (edge : ℕ) (payload : Json) (after : State) : Prop :=
  after = state.told edge payload ∨ after = (state.told edge payload).closeEdge edge

variable {after : State} {payload : Json}

theorem Tells.forwardsNothing {edge : ℕ} (h : Tells state edge payload after) :
    ForwardsNothing state after := by
  rcases h with rfl | rfl <;>
    exact ⟨agentConns_told _ _ _, pending_told _ _ _, streams_told _ _ _, udpSessions_told _ _ _⟩

theorem Tells.sent {edge : ℕ} (h : Tells state edge payload after) {conn : EdgeConnection}
    (hconn : state.edgeConns.get? edge = some conn) :
    ∃ later, after.edgeConns.get? edge = some later ∧ later.framed.sent =
      if conn.framed.silent then conn.framed.sent else conn.framed.sent ++ [payload] := by
  have htold : (state.told edge payload).edgeConns.get? edge = _ := edge_told hconn
  have hsent (hsilent : Bool) : (if hsilent then conn else
      { conn with framed.sent := conn.framed.sent ++ [payload] }).framed.sent =
      if hsilent then conn.framed.sent else conn.framed.sent ++ [payload] := by
    cases hsilent <;> rfl
  rcases h with rfl | rfl
  · exact ⟨_, htold, hsent _⟩
  · have hclosed := OrdMap.get?_update_self (state.told edge payload).edgeConns edge
      fun conn => { conn with framed := conn.framed.close }
    rw [htold] at hclosed
    exact ⟨_, hclosed, (sent_close _).trans (hsent _)⟩

theorem exec_onEdgeStream_of_none {streamId : Key} {frame : Json}
    (hnone : state.streams.get? streamId = none) (hdata : hasType frame "stream_data" = true) :
    (exec (onEdgeStream env streamId frame) state).2 = state := by
  rw [onEdgeStream, exec_bind, exec_get]
  dsimp only
  rw [hnone, forward, exec_bind, exec_pure]
  simp [hasType_other hdata "stream_close" (by decide)]

theorem refuses_iff_of_tells (halive : ¬ after.Crashed)
    (htype : hasType payload (refusalType lookup.kind) = true)
    (htells : Tells state lookup.edge payload after) :
    Refuses env lookup state after ↔ state.EdgeListens lookup.edge := by
  constructor
  · intro h
    obtain ⟨conn, later, refusal, hconn, hlater, hsent, -⟩ := h.answered
    obtain ⟨found, hfound, hwritten⟩ := htells.sent hconn
    rw [hlater] at hfound
    cases hfound
    refine ⟨conn, hconn, ?_⟩
    cases hsilent : conn.framed.silent with
    | false => rfl
    | true =>
      rw [hsent, hsilent] at hwritten
      simp at hwritten
  · rintro ⟨conn, hconn, hopen⟩
    obtain ⟨later, hlater, hsent⟩ := htells.sent hconn
    rw [hopen] at hsent
    have hnothing := htells.forwardsNothing
    refine ⟨halive, hnothing, ⟨conn, later, payload, hconn, hlater, hsent, htype⟩, ?_⟩
    intro streamId _ hnone frame hdata
    rw [← hnothing.streams] at hnone
    exact exec_onEdgeStream_of_none hnone hdata

theorem not_answersRefusal (hsame : after.edgeConns = state.edgeConns) :
    ¬ AnswersRefusal lookup state after := by
  rintro ⟨conn, later, refusal, hconn, hlater, hsent, -⟩
  rw [hsame, hconn] at hlater
  cases hlater
  simp at hsent

/-- What a handler makes of a request: all it asks for is there and the request is entered
and handed over, or it is refused. -/
inductive Outcome (lookup : Lookup) (route : Route) (state next : State) : Prop
  | refused {payload : Json} (hincomplete : lookup.kind = .proxyRequest ∨
        ¬ Complete state route lookup.kind)
      (htype : hasType payload (refusalType lookup.kind) = true)
      (htells : Tells state lookup.edge payload next)
  | handedOver (hcomplete : lookup.kind ≠ .proxyRequest ∧ Complete state route lookup.kind)
      (hedges : next.edgeConns = state.edgeConns)

theorem outcome_of_exec {route : Route} {next : State} {a : Unit}
    (hkind : lookup.kind ≠ .healthProbe)
    (hinactive : ∀ tunnel, route.tunnel = some tunnel → tunnel.status ≠ text "active")
    (hexec : exec (onRoute env lookup route) state = (.ok a, next)) (halive : ¬ next.Crashed) :
    Outcome lookup route state next := by
  unfold onRoute at hexec
  cases hlookup : lookup.kind with
  | healthProbe => exact absurd hlookup hkind
  | proxyRequest =>
    rw [hlookup] at hexec
    rcases proxyRequest_cases hexec with hcrashed | ⟨status, message, -, hnext⟩ |
      ⟨tunnel, target, connection, hto, hactive, -⟩
    · exact absurd hcrashed halive
    · refine .refused (.inl hlookup) ?_ (.inr hnext)
      rw [hlookup]
      cases lookup.frame.get? "requestId" <;> rfl
    · exact absurd hactive (hinactive tunnel (connectedTarget_eq_some hto).1)
  | streamOpen =>
    rw [hlookup] at hexec
    rcases streamOpen_cases hexec with hcrashed | ⟨hnone, -, hnext⟩ |
      ⟨tunnel, target, connection, hto, hsend⟩
    · exact absurd hcrashed halive
    · refine .refused (.inr ?_) ?_ (.inr hnext)
      · rw [hlookup]
        exact fun hcomplete => hcomplete hnone
      · rw [hlookup]
        cases lookup.frame.get? "streamId" <;> rfl
    · refine .handedOver ⟨?_, ?_⟩ (sameTraffic_of_exec_sendAgent hsend).edges
      · rw [hlookup]
        exact nofun
      · rw [hlookup]
        unfold Complete
        rw [hto]
        exact nofun
  | udpDatagram =>
    rw [hlookup] at hexec
    rcases udpDatagram_cases hexec with hcrashed | ⟨hnone, -, hnext⟩ |
      ⟨tunnel, target, connection, sessionId, hto, hsend⟩
    · exact absurd hcrashed halive
    · refine .refused (.inr ?_) ?_ (.inl hnext)
      · rw [hlookup]
        exact fun hcomplete => hcomplete hnone
      · rw [hlookup]
        cases lookup.frame.get? "sessionId" <;> rfl
    · refine .handedOver ⟨?_, ?_⟩ (sameTraffic_of_exec_sendAgent hsend).edges
      · rw [hlookup]
        exact nofun
      · rw [hlookup]
        unfold Complete
        rw [hto]
        exact nofun

theorem not_complete_empty {kind : LookupKind} : ¬ Complete state {} kind := by
  cases kind <;> exact fun h => h rfl

section

variable {store : Store} {tunnelId : String} (requested : Option String) {id : ℕ}

/-- The request is stopped without its status being asked for, or by the status. -/
def Stopped (store : Store) (state : State) (route : Route) (kind : LookupKind) : Prop :=
  kind = .proxyRequest ∨ store.Filters ∨ ¬ Complete state route kind

theorem stopped_iff (hinactive : store.Inactive tunnelId) (kind : LookupKind) :
    Stopped store state (store.getRoute tunnelId requested) kind ↔
      kind = .proxyRequest ∨ ¬ Complete state (store.getRoute tunnelId requested) kind := by
  refine or_congr_right ⟨?_, .inr⟩
  rintro (hfilters | hincomplete)
  · rw [hinactive.getRoute_of_filters hfilters]
    exact not_complete_empty
  · exact hincomplete

theorem outcome_step (hrunning : ¬ state.Crashed) (hlookup : state.lookups.get? id = some lookup)
    (hkind : lookup.kind ≠ .healthProbe) (hinactive : store.Inactive tunnelId)
    (halive : ¬ (step env state
      (.routeResolved id (store.getRoute tunnelId requested))).Crashed) :
    Outcome lookup (store.getRoute tunnelId requested) (state.tick.forgetLookup id)
      (step env state (.routeResolved id (store.getRoute tunnelId requested))) := by
  rw [step_routeResolved env hrunning hlookup] at halive ⊢
  unfold voidAsync at halive ⊢
  cases hexec : exec (onRoute env lookup (store.getRoute tunnelId requested))
      (state.tick.forgetLookup id) with
  | mk result last =>
    rw [hexec] at halive
    cases result with
    | error error => exact absurd crashed_raise halive
    | ok a => exact outcome_of_exec hkind (fun _ => hinactive.status_getRoute) hexec halive

theorem refuses_forgetLookup {id : ℕ} {next : State} :
    Refuses env lookup (state.tick.forgetLookup id) next ↔ Refuses env lookup state next :=
  ⟨fun h => ⟨h.running, ⟨h.nothing.agents, h.nothing.pending, h.nothing.streams,
    h.nothing.sessions⟩, h.answered, h.data⟩, fun h => ⟨h.running, ⟨h.nothing.agents,
    h.nothing.pending, h.nothing.streams, h.nothing.sessions⟩, h.answered, h.data⟩⟩

/-- A request for an inactive tunnel is refused exactly when it is a proxied request, or
the store filters inactive tunnels, or something else the handler asks for is missing;
and then nothing is forwarded even where the edge is gone. -/
theorem refuses_iff (hrunning : ¬ state.Crashed) (hlookup : state.lookups.get? id = some lookup)
    (hkind : lookup.kind ≠ .healthProbe) (hinactive : store.Inactive tunnelId) :
    let route := store.getRoute tunnelId requested
    let next := step env state (.routeResolved id route)
    (Refuses env lookup state next ↔ Benign env state (.routeResolved id route) ∧
      state.EdgeListens lookup.edge ∧ Stopped store state route lookup.kind) ∧
    (Benign env state (.routeResolved id route) → Stopped store state route lookup.kind →
      ForwardsNothing state next) := by
  intro route next
  have halive_iff : ¬ next.Crashed ↔ Benign env state (.routeResolved id route) := by
    rw [crashed_step_iff]
    simp [hrunning]
  have houtcome (halive : ¬ next.Crashed) :
      Outcome lookup route (state.tick.forgetLookup id) next :=
    outcome_step requested hrunning hlookup hkind hinactive halive
  rw [stopped_iff requested hinactive, ← halive_iff]
  rw [← refuses_forgetLookup]
  constructor
  · by_cases halive : ¬ next.Crashed
    · cases houtcome halive with
      | refused hincomplete htype htells =>
        rw [refuses_iff_of_tells halive htype htells]
        exact ⟨fun h => ⟨halive, h, hincomplete⟩, fun h => h.2.1⟩
      | handedOver hcomplete hedges =>
        refine iff_of_false (fun h => not_answersRefusal hedges h.answered) ?_
        rintro ⟨-, -, hstopped⟩
        exact hstopped.elim hcomplete.1 fun h => h hcomplete.2
    · exact iff_of_false (fun h => halive h.running) fun h => halive h.1
  · intro halive hstopped
    cases houtcome halive with
    | refused hincomplete htype htells =>
      have h := htells.forwardsNothing
      exact ⟨h.agents, h.pending, h.streams, h.sessions⟩
    | handedOver hcomplete hedges =>
      exact (hstopped.elim hcomplete.1 fun h => h hcomplete.2).elim

end

def streamOpening (streamId tunnelId : String) : Json :=
  .obj [("type", .str "stream_open"), ("streamId", .str streamId), ("tunnelId", .str tunnelId)]

def pausedDatabase : Control.Database where
  agents := OrdMap.empty.set "a1" ⟨"a1", "org", "online", none⟩
  tunnels := OrdMap.empty.set "d1"
    ⟨"d1", "org", "a1", none, "app", "tcp", "app.example.test", "paused", false⟩
  targets := OrdMap.empty.set "g1"
    ⟨"g1", "org", "d1", "a1", "default", "127.0.0.1", 3000, 1, Control.one_le_weight, 100, true,
      "healthy"⟩
  policies := OrdMap.empty
  presence := OrdMap.empty
  targetSelectionCounters := OrdMap.empty
  targets_keyed := by decide

def pausedStore : Store := .control pausedDatabase

def pausedEnv : Env := .plain [agentHello "a1", streamOpening "s1" "d1"]

def pausedState : State :=
  run (step pausedEnv) initial (edgeRun ++ [.edgeData 0 (Codec.wire (streamOpening "s1" "d1"))])

def pausedLookup : Lookup := ⟨.streamOpen, 0, streamOpening "s1" "d1", 8⟩

theorem inactive_pausedStore : pausedStore.Inactive "d1" := ⟨"paused", by decide, by decide⟩

theorem lookups_pausedState : pausedState.lookups.get? 8 = some pausedLookup := by
  decide +kernel

theorem refuses_iff_paused :
    let route := pausedStore.getRoute "d1" none
    let next := step pausedEnv pausedState (.routeResolved 8 route)
    (Refuses pausedEnv pausedLookup pausedState next ↔
      Benign pausedEnv pausedState (.routeResolved 8 route) ∧
      pausedState.EdgeListens 0 ∧ Stopped pausedStore pausedState route .streamOpen) ∧
    (Benign pausedEnv pausedState (.routeResolved 8 route) →
      Stopped pausedStore pausedState route .streamOpen → ForwardsNothing pausedState next) :=
  refuses_iff none (show ¬ pausedState.Crashed by decide +kernel) lookups_pausedState (by decide)
    inactive_pausedStore

/-- The agent is sent the opening of the stream and the edge is not refused. -/
theorem not_refuses_paused :
    pausedStore.Inactive "d1" ∧ pausedState.lookups.get? 8 = some pausedLookup ∧
      pausedState.EdgeListens 0 ∧
      ¬ (step pausedEnv pausedState (.routeResolved 8 (pausedStore.getRoute "d1" none))).Crashed ∧
      ¬ Refuses pausedEnv pausedLookup pausedState
        (step pausedEnv pausedState (.routeResolved 8 (pausedStore.getRoute "d1" none))) := by
  have hlistens : (pausedState.edgeConns.get? 0).map (fun conn => conn.framed.silent) =
      some false := by
    decide +kernel
  have hentered : (step pausedEnv pausedState
      (.routeResolved 8 (pausedStore.getRoute "d1" none))).streams.entries ≠
        pausedState.streams.entries := by
    decide +kernel
  refine ⟨inactive_pausedStore, lookups_pausedState, Option.map_eq_some_iff.1 hlistens, ?_, ?_⟩
  · decide +kernel
  · exact fun h => hentered (congrArg OrdMap.entries h.nothing.streams)

end Tunnara.Relay
