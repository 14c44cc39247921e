/-
# Nothing reaches the Relay without an allow

A `proxy_request` and the `stream_open` of an upgrade are sent after the decision of
the engine on that very request has allowed it. Every other outcome of the decision,
a throw included, ends the handler before it connects to the Relay. The path and the
headers of what is sent are those of the decision.
-/

import Tunnara.Edge.Sessions

namespace Tunnara.Edge

open Policy Relay Transition

variable {config : Config}

/-! ## The decision -/

/-- The route has a policy document, or one that cannot be read. -/
def CarriesPolicy (config : Config) (route : Json) : Prop :=
  policyArgument config.host route ≠ .ok none

/-- `evaluatePolicy` returns the decision. -/
def Evaluated (config : Config) (route : Json) (request : Request) (hostname : String)
    (buckets : RateBuckets) (decision : PolicyResult) : Prop :=
  ∃ policy, policyArgument config.host route = .ok (some policy) ∧
    ((evaluatePolicy config.host policy
      (requestContext config.trustProxy route request hostname)).run buckets).1 = .ok decision

variable {hostname : String} {buckets : RateBuckets} {decision : PolicyResult} {request : Request}

theorem evaluated_of_decision {route : Json} (hcarries : CarriesPolicy config route)
    (h : config.decision route request hostname buckets = .ok decision) :
    Evaluated config route request hostname buckets decision := by
  unfold Config.decision at h
  cases hargument : policyArgument config.host route with
  | error error =>
    simp only [policyDecision, hargument] at h
    cases h
  | ok argument =>
    cases argument with
    | none => exact absurd hargument hcarries
    | some policy =>
      rw [policyDecision_of_policyArgument config.host hargument] at h
      exact ⟨policy, hargument, h⟩

theorem sound_noPolicyDecision : (noPolicyDecision request).Sound :=
  ⟨request.url_ne, headerMap_nil⟩

theorem sound_decision {route : Json}
    (h : config.decision route request hostname buckets = .ok decision) : decision.Sound := by
  by_cases hcarries : CarriesPolicy config route
  · obtain ⟨policy, -, heval⟩ := evaluated_of_decision hcarries h
    exact sound_evaluatePolicy buckets decision _ (Prod.ext heval rfl)
  · have hnone : policyArgument config.host route = .ok none := not_not.1 hcarries
    simp only [Config.decision, policyDecision, hnone] at h
    cases h
    exact sound_noPolicyDecision

theorem decidedPath_of_sound (h : decision.Sound) (request : Request) :
    decidedPath request decision = decision.path := if_neg h.path

/-- At one event of the run, with nothing sent before, the engine decided on the request
and allowed it. -/
structure Permitted {σ : Type} (config : Config) (step : σ → ServerEvent → σ)
    (sent : σ → List Json) (start : σ) (events : List ServerEvent) (route : Json)
    (request : Request) (decision : PolicyResult) : Prop where
  decided : ∃ hostname before buckets after,
    normalizeHostname config.host (request.headers.get? "host") = some hostname ∧
    events = before ++ .decided buckets :: after ∧ sent (run step start before) = [] ∧
    config.decision route request hostname buckets = .ok decision ∧
    (CarriesPolicy config route → Evaluated config route request hostname buckets decision)
  allowed : decision.allowed = true

section Permitted

variable {σ : Type} {step : σ → ServerEvent → σ} {sent : σ → List Json} {start : σ}
  {events : List ServerEvent} {route : Json} {request : Request} {decision : PolicyResult}

section

variable (h : Permitted config step sent start events route request decision)
include h

theorem Permitted.snoc {event : ServerEvent} :
    Permitted config step sent start (events ++ [event]) route request decision := by
  obtain ⟨hostname, before, buckets, after, hname, hevents, hrest⟩ := h.decided
  refine ⟨⟨hostname, before, buckets, after ++ [event], hname, ?_, hrest⟩, h.allowed⟩
  rw [hevents, List.append_assoc, List.cons_append]

theorem Permitted.sound : decision.Sound := by
  obtain ⟨hostname, before, buckets, after, -, -, -, hdecision, -⟩ := h.decided
  exact sound_decision hdecision

end

theorem permitted_now
    (hname : normalizeHostname config.host (request.headers.get? "host") = some hostname)
    (hsent : sent (run step start events) = [])
    (hdecision : config.decision route request hostname buckets = .ok decision)
    (hallowed : decision.allowed = true) :
    Permitted config step sent start (events ++ [.decided buckets]) route request decision :=
  ⟨⟨hostname, events, buckets, [], hname, rfl, hsent, hdecision,
    fun hcarries => evaluated_of_decision hcarries hdecision⟩, hallowed⟩

theorem forall_of_unsent {P : Json → Prop} {frames : List Json} (h : frames = []) :
    ∀ frame ∈ frames, P frame := by
  rw [h]
  exact nofun

end Permitted

/-! ## Requests -/

namespace RequestSession

variable {session next : RequestSession}

/-- Nothing is sent, and the handler stays where it is or ends. -/
structure Quiet (before after : RequestSession) : Prop where
  request : after.request = before.request
  hostname : after.hostname = before.hostname
  requestId : after.requestId = before.requestId
  phase : after.phase = before.phase ∨ after.phase = .finished
  sent : after.relay.framed.sent = before.relay.framed.sent

theorem Quiet.refl (session : RequestSession) : session.Quiet session :=
  ⟨rfl, rfl, rfl, .inl rfl, rfl⟩

theorem Quiet.trans {last : RequestSession} (h : session.Quiet next) (h' : next.Quiet last) :
    session.Quiet last := by
  refine ⟨h'.request.trans h.request, h'.hostname.trans h.hostname,
    h'.requestId.trans h.requestId, ?_, h'.sent.trans h.sent⟩
  rcases h'.phase with hsame | hfinished
  · rw [hsame]
    exact h.phase
  · exact .inr hfinished

theorem quiet_of_sent {relay : Link} {faults : List Fault}
    (h : relay.framed.sent = session.relay.framed.sent) :
    session.Quiet { session with relay, faults } := ⟨rfl, rfl, rfl, .inl rfl, h⟩

theorem quiet_finish : session.Quiet session.finish := ⟨rfl, rfl, rfl, .inr rfl, rfl⟩

theorem quiet_relayEmits : session.Quiet session.relayEmits := by
  have hunheard : session.Quiet { session with relay.heard := false } := quiet_of_sent rfl
  unfold relayEmits
  split_ifs
  · exact hunheard.trans quiet_finish
  · exact quiet_of_sent rfl

theorem sent_close (connection : FramedConnection) : connection.close.sent = connection.sent := by
  unfold FramedConnection.close
  split_ifs <;> rfl

theorem quiet_onSignal {signal : Signal} : session.Quiet (session.onSignal signal) := by
  cases signal with
  | frame frame =>
    have hclosed : session.Quiet { session with relay := { session.relay with
        heard := false, framed := session.relay.framed.close } } := quiet_of_sent (sent_close _)
    rw [onSignal]
    split_ifs
    · exact hclosed.trans quiet_finish
    · exact .refl session
  | malformed => exact .refl session
  | invalidLength =>
    have hdestroyed : session.Quiet
        { session with relay.framed := session.relay.framed.destroy.connection } :=
      quiet_of_sent rfl
    rw [onSignal]
    split_ifs
    · exact hdestroyed.trans quiet_relayEmits
    · exact hdestroyed

theorem quiet_signals {signals : List Signal} : session.Quiet (run onSignal session signals) := by
  induction signals generalizing session with
  | nil => exact .refl session
  | cons signal rest ih => exact quiet_onSignal.trans ih

theorem quiet_onRelay {event : SocketEvent} : session.Quiet (session.onRelay config event) := by
  cases event with
  | relayFailed =>
    have hmarked : session.Quiet { session with relay.framed.destroyed := true } :=
      quiet_of_sent rfl
    rw [onRelay]
    split_ifs
    · exact .refl session
    · exact hmarked.trans quiet_relayEmits
  | relayData chunk =>
    have hbuffered : session.Quiet { session with relay.framed.buffer :=
        (drain config.env.codec (session.relay.framed.buffer ++ chunk)).2 } := quiet_of_sent rfl
    rw [onRelay]
    split_ifs
    · exact .refl session
    · exact hbuffered.trans quiet_signals
  | relayEnd =>
    rw [onRelay]
    split_ifs
    · exact .refl session
    · exact quiet_of_sent rfl
  | relayClose =>
    have hgone : session.Quiet { session with relay := { session.relay with
        gone := true, framed.closed := true, framed.destroyed := true } } := quiet_of_sent rfl
    have hunheard : session.Quiet { session with relay := { session.relay with
        gone := true, framed.closed := true, framed.destroyed := true, heard := false } } :=
      quiet_of_sent rfl
    rw [onRelay]
    dsimp only
    split_ifs
    · exact .refl session
    · exact hunheard.trans quiet_finish
    · exact hgone
  | relayConnected | clientData chunk | clientEnd | clientClose
  | clientFailed => exact .refl session

/-- What a handler sends, and the phases on the way there. -/
inductive Advances (config : Config) (session : RequestSession) :
    ServerEvent → RequestSession → Prop
  | routed (resolved : Option Json) (route : Json) (hphase : session.phase = .resolving) :
      Advances config session (.routeResolved resolved) { session with phase := .deciding route }
  | decided {route : Json} {buckets : RateBuckets} {decision : PolicyResult}
      (hphase : session.phase = .deciding route)
      (hdecision : config.decision route session.request session.hostname buckets = .ok decision)
      (hallowed : decision.allowed = true) :
      Advances config session (.decided buckets) { session with phase := .reading route decision }
  | read {route : Json} {decision : PolicyResult} {headers : FrameHeaders} (event : ServerEvent)
      (body : List UInt8) (hphase : session.phase = .reading route decision)
      (hheaders : forwardedHeaders config.host config.secure session.request session.hostname
        session.freshId decision = .ok headers) :
      Advances config session event
        { session with phase := .connecting route decision headers body }
  | sent {route : Json} {decision : PolicyResult} {headers : FrameHeaders} {body : List UInt8}
      (event : ServerEvent) {phase : RequestPhase} {relay : Link}
      (hphase : session.phase = .connecting route decision headers body)
      (hafter : phase = .awaiting ∨ phase = .finished)
      (hsent : ∀ frame ∈ relay.framed.sent, frame =
        proxyRequestFrame session.requestId route session.request decision headers body) :
      Advances config session event { session with phase, relay }

theorem advances_connected {route : Json} {decision : PolicyResult} {headers : FrameHeaders}
    {body : List UInt8} (event : ServerEvent)
    (hphase : session.phase = .connecting route decision headers body) :
    Advances config session event (session.connected config route decision headers body) := by
  unfold connected
  dsimp only
  cases hsend : ({} : FramedConnection).send config.env.codec
      (proxyRequestFrame session.requestId route session.request decision headers body) with
  | error error => exact .sent event hphase (.inr rfl) nofun
  | ok effect =>
    apply Advances.sent event hphase (.inl rfl)
    intro frame hframe
    rcases FramedConnection.send_cases hsend with ⟨-, rfl⟩ | ⟨-, -, -, rfl⟩ | ⟨-, -, -, rfl⟩
    · cases hframe
    · cases hframe
    · exact List.mem_singleton.1 hframe

theorem step_cases (session : RequestSession) (event : ServerEvent) :
    session.Quiet (session.step config event) ∨
      Advances config session event (session.step config event) := by
  unfold step
  by_cases hcrashed : session.Crashed
  · rw [if_pos hcrashed]
    exact .inl (.refl session)
  · rw [if_neg hcrashed]
    unfold handle
    split
    · next hphase =>
        unfold routeResolved
        split
        · split_ifs
          · exact .inr (.routed _ _ hphase)
          · exact .inl quiet_finish
        · exact .inl quiet_finish
    · next hphase =>
        unfold decided
        split
        · next hdecision =>
            split_ifs with hallowed
            · exact .inr (.decided hphase hdecision hallowed)
            · exact .inl quiet_finish
        · exact .inl quiet_finish
    · next hphase =>
        unfold bodyRead
        split
        · exact .inl quiet_finish
        · split
          · exact .inl quiet_finish
          · next hheaders => exact .inr (.read _ _ hphase hheaders)
    · next hphase => exact .inr (advances_connected _ hphase)
    · exact .inl quiet_finish
    · have hunheard : session.Quiet { session with relay.heard := false } := quiet_of_sent rfl
      exact .inl (hunheard.trans quiet_finish)
    · exact .inl quiet_onRelay
    · exact .inl quiet_onRelay
    · exact .inl (.refl session)

abbrev Allowed (config : Config) (request : Request) (requestId freshId : String)
    (events : List ServerEvent) (route : Json) (decision : PolicyResult) : Prop :=
  Permitted config (step config) (fun session => session.relay.framed.sent)
    (arrive config request requestId freshId) events route request decision

/-- The frames sent so far, and what the next one will rest on. -/
structure Permits (config : Config) (request : Request) (requestId freshId : String)
    (events : List ServerEvent) (session : RequestSession) : Prop where
  sameRequest : session.request = request
  sameId : session.requestId = requestId
  named : session.phase ≠ .finished →
    normalizeHostname config.host (request.headers.get? "host") = some session.hostname
  unsent : session.phase ≠ .awaiting → session.phase ≠ .finished → session.relay.framed.sent = []
  reading : ∀ route decision, session.phase = .reading route decision →
    Allowed config request requestId freshId events route decision
  connecting : ∀ route decision headers body,
    session.phase = .connecting route decision headers body →
    Allowed config request requestId freshId events route decision ∧
      FollowsDecision config.host ownNames hopByHop request decision headers
  sent : ∀ frame ∈ session.relay.framed.sent, ∃ route decision headers body,
    Allowed config request requestId freshId events route decision ∧
      FollowsDecision config.host ownNames hopByHop request decision headers ∧
      frame = proxyRequestFrame requestId route request decision headers body

variable {requestId freshId : String} {events : List ServerEvent}

theorem permits_arrive (config : Config) (request : Request) (requestId freshId : String) :
    Permits config request requestId freshId [] (arrive config request requestId freshId) := by
  have hfinished : Permits config request requestId freshId []
      (finish { request, hostname := "", requestId, freshId }) :=
    ⟨rfl, rfl, absurd rfl, fun _ h => absurd rfl h, nofun, nofun, nofun⟩
  unfold arrive
  split_ifs
  · exact hfinished
  · split
    · exact hfinished
    · next hname => exact ⟨rfl, rfl, fun _ => hname, fun _ _ => rfl, nofun, nofun, nofun⟩

theorem Permits.quiet (h : Permits config request requestId freshId events session)
    (hquiet : session.Quiet next) (event : ServerEvent) :
    Permits config request requestId freshId (events ++ [event]) next := by
  have hlive : next.phase ≠ .finished → next.phase = session.phase :=
    fun hne => hquiet.phase.resolve_right hne
  refine ⟨hquiet.request.trans h.sameRequest, hquiet.requestId.trans h.sameId, ?_, ?_, ?_, ?_, ?_⟩
  · intro hne
    rw [hquiet.hostname]
    exact h.named (hlive hne ▸ hne)
  · intro hawaiting hne
    rw [hquiet.sent]
    exact h.unsent (hlive hne ▸ hawaiting) (hlive hne ▸ hne)
  · intro route decision hphase
    have hbefore : session.phase = .reading route decision :=
      (hlive (hphase.trans_ne nofun)).symm.trans hphase
    exact (h.reading route decision hbefore).snoc
  · intro route decision headers body hphase
    have hbefore : session.phase = .connecting route decision headers body :=
      (hlive (hphase.trans_ne nofun)).symm.trans hphase
    have hallowed := h.connecting route decision headers body hbefore
    exact ⟨hallowed.1.snoc, hallowed.2⟩
  · intro frame hframe
    rw [hquiet.sent] at hframe
    obtain ⟨route, decision, headers, body, hallowed, hrest⟩ := h.sent frame hframe
    exact ⟨route, decision, headers, body, hallowed.snoc, hrest⟩

theorem Permits.advances {event : ServerEvent}
    (hsession : session = run (step config) (arrive config request requestId freshId) events)
    (h : Permits config request requestId freshId events session)
    (hadvances : Advances config session event next) :
    Permits config request requestId freshId (events ++ [event]) next := by
  cases hadvances with
  | routed resolved route hphase =>
    have hunsent := h.unsent (hphase.trans_ne nofun) (hphase.trans_ne nofun)
    have hnamed := h.named (hphase.trans_ne nofun)
    exact ⟨h.sameRequest, h.sameId, fun _ => hnamed, fun _ _ => hunsent, nofun, nofun,
      forall_of_unsent hunsent⟩
  | @decided route buckets decision hphase hdecision hallowed =>
    have hunsent := h.unsent (hphase.trans_ne nofun) (hphase.trans_ne nofun)
    have hnamed := h.named (hphase.trans_ne nofun)
    rw [h.sameRequest] at hdecision
    have hnow : Allowed config request requestId freshId (events ++ [.decided buckets]) route
        decision := permitted_now hnamed (hsession ▸ hunsent) hdecision hallowed
    refine ⟨h.sameRequest, h.sameId, fun _ => hnamed, fun _ _ => hunsent, ?_, nofun,
      forall_of_unsent hunsent⟩
    intro _ _ hreading
    cases hreading
    exact hnow
  | @read route decision headers _ body hphase hheaders =>
    have hunsent := h.unsent (hphase.trans_ne nofun) (hphase.trans_ne nofun)
    have hnamed := h.named (hphase.trans_ne nofun)
    have hallowed := h.reading route decision hphase
    rw [h.sameRequest] at hheaders
    have hfollows := followsDecision_forwardedHeaders hallowed.sound.headers hheaders
    refine ⟨h.sameRequest, h.sameId, fun _ => hnamed, fun _ _ => hunsent, nofun, ?_,
      forall_of_unsent hunsent⟩
    intro _ _ _ _ hconnecting
    cases hconnecting
    exact ⟨hallowed.snoc, hfollows⟩
  | @sent route decision headers body _ phase relay hphase hafter hsent =>
    have hnamed := h.named (hphase.trans_ne nofun)
    obtain ⟨hallowed, hfollows⟩ := h.connecting route decision headers body hphase
    refine ⟨h.sameRequest, h.sameId, fun _ => hnamed, ?_, ?_, ?_, ?_⟩
    · intro hawaiting hfinished
      rcases hafter with hphase | hphase
      · exact absurd hphase hawaiting
      · exact absurd hphase hfinished
    · rcases hafter with rfl | rfl <;> exact nofun
    · rcases hafter with rfl | rfl <;> exact nofun
    · intro frame hframe
      have heq := hsent frame hframe
      rw [h.sameRequest, h.sameId] at heq
      exact ⟨route, decision, headers, body, hallowed.snoc, hfollows, heq⟩

theorem permits_run (config : Config) (request : Request) (requestId freshId : String)
    (events : List ServerEvent) : Permits config request requestId freshId events
      (run (step config) (arrive config request requestId freshId) events) := by
  apply run_history (permits_arrive config request requestId freshId)
  intro events event h
  rcases step_cases (run (step config)
    (arrive config request requestId freshId) events) event with hquiet | hadvances
  · exact h.quiet hquiet event
  · exact h.advances rfl hadvances

end RequestSession

/-! ## Upgrades -/

theorem Ends.Works.sent {passes : Bool} {throws : Prop} {ends next : Ends}
    (h : ends.Works passes throws next) : ∀ frame ∈ next.relay.framed.sent,
      frame ∈ ends.relay.framed.sent ∨ hasType frame "stream_open" = false := by
  have hstill : ∀ {ends next : Ends}, ends.Still next → ∀ frame ∈ next.relay.framed.sent,
      frame ∈ ends.relay.framed.sent ∨ hasType frame "stream_open" = false :=
    fun h frame hframe => .inl (h.sent ▸ hframe)
  induction h with
  | touched _ _ _ hsent => exact fun frame hframe => .inl (hsent ▸ hframe)
  | thrown ends error _ => exact hstill still_raise
  | clientEmits ends => exact hstill still_clientEmits
  | relayEmits ends => exact hstill still_relayEmits
  | wrote ends hpayload =>
    intro frame hframe
    rcases List.mem_append.1 hframe with hold | hnew
    · exact .inl hold
    · rw [List.mem_singleton.1 hnew]
      exact .inr hpayload
  | trans _ _ ih ih' =>
    intro frame hframe
    rcases ih' frame hframe with hmid | hother
    · exact ih frame hmid
    · exact .inr hother

namespace UpgradeSession

variable {session next : UpgradeSession}

/-- No stream is opened, and the handler stays where it is or ends. -/
structure Quiet (before after : UpgradeSession) : Prop where
  request : after.request = before.request
  httpVersion : after.httpVersion = before.httpVersion
  head : after.head = before.head
  hostname : after.hostname = before.hostname
  streamId : after.streamId = before.streamId
  phase : after.phase = before.phase ∨ after.phase = .finished
  sent : ∀ frame ∈ after.ends.relay.framed.sent, frame ∈ before.ends.relay.framed.sent ∨
    before.phase = .running ∧ hasType frame "stream_open" = false

theorem Quiet.refl (session : UpgradeSession) : session.Quiet session :=
  ⟨rfl, rfl, rfl, rfl, rfl, .inl rfl, fun _ => .inl⟩

theorem quiet_of_still {ends : Ends} (h : session.ends.Still ends) :
    session.Quiet { session with ends } :=
  ⟨rfl, rfl, rfl, rfl, rfl, .inl rfl, fun _ hframe => .inl (h.sent ▸ hframe)⟩

theorem Continues.quiet {throws : Prop} (h : session.Continues config throws next) (hphase : session.phase = .running) :
    session.Quiet next := by
  refine ⟨h.request, h.httpVersion, h.head, h.hostname, h.streamId, .inl h.phase, ?_⟩
  intro frame hframe
  rcases h.ends.sent frame hframe with hold | hother
  · exact .inl hold
  · exact .inr ⟨hphase, hother⟩

theorem quiet_refuse {status : String} : session.Quiet (session.refuse status) := by
  have hstill : session.ends.Still
      ((session.ends.writeClient (statusLine status)).destroyClient false) :=
    Ends.still_writeClient.trans Ends.still_destroyClient
  exact ⟨rfl, rfl, rfl, rfl, rfl, .inr rfl, fun _ hframe => .inl (hstill.sent ▸ hframe)⟩

theorem still_onSignalAlone (signals : List Signal) :
    ∃ ends, run onSignalAlone session signals = { session with ends } ∧
      session.ends.Still ends := by
  induction signals generalizing session with
  | nil => exact ⟨session.ends, rfl, .refl _⟩
  | cons signal rest ih =>
    have hfirst : ∃ ends, session.onSignalAlone signal = { session with ends } ∧
        session.ends.Still ends := by
      cases signal with
      | frame frame | malformed => exact ⟨session.ends, rfl, .refl _⟩
      | invalidLength => exact ⟨_, rfl, Ends.still_failRelay⟩
    obtain ⟨ends, hends, hstill⟩ := hfirst
    obtain ⟨last, hlast, hlater⟩ := @ih { session with ends }
    refine ⟨last, ?_, hstill.trans hlater⟩
    rw [run_cons, hends, hlast]

theorem still_handleAlone (event : SocketEvent) :
    ∃ ends, session.handleAlone config event = { session with ends } ∧
      session.ends.Still ends := by
  cases event with
  | relayFailed => exact ⟨_, rfl, Ends.still_relaySocketFails⟩
  | relayData chunk =>
    rw [handleAlone]
    split_ifs
    · exact ⟨session.ends, rfl, .refl _⟩
    · obtain ⟨ends, hends, hstill⟩ := @still_onSignalAlone { session with
          ends.relay.framed.buffer :=
            (drain config.env.codec (session.ends.relay.framed.buffer ++ chunk)).2 }
        (drain config.env.codec (session.ends.relay.framed.buffer ++ chunk)).1
      exact ⟨ends, hends, ⟨hstill.sent, hstill.read, hstill.finished, hstill.destroyed⟩⟩
  | relayEnd =>
    rw [handleAlone]
    split_ifs
    · exact ⟨session.ends, rfl, .refl _⟩
    · exact ⟨_, rfl, ⟨rfl, rfl, id, id⟩⟩
  | relayClose => exact ⟨_, rfl, ⟨rfl, rfl, id, id⟩⟩
  | clientEnd =>
    rw [handleAlone]
    split_ifs
    · exact ⟨session.ends, rfl, .refl _⟩
    · exact ⟨_, rfl, ⟨rfl, rfl, fun _ => rfl, id⟩⟩
  | clientClose => exact ⟨_, rfl, ⟨rfl, rfl, id, fun _ => rfl⟩⟩
  | clientFailed => exact ⟨_, rfl, Ends.still_clientSocketFails⟩
  | relayConnected | clientData chunk => exact ⟨session.ends, rfl, .refl _⟩

theorem quiet_handleAlone {event : SocketEvent} :
    session.Quiet (session.handleAlone config event) := by
  obtain ⟨ends, hends, hstill⟩ := @still_handleAlone config session event
  rw [hends]
  exact quiet_of_still hstill

/-- What a handler sends, and the phases on the way there. -/
inductive Advances (config : Config) (session : UpgradeSession) :
    ServerEvent → UpgradeSession → Prop
  | routed (resolved : Option Json) (route : Json) (hphase : session.phase = .resolving) :
      Advances config session (.routeResolved resolved) { session with phase := .deciding route }
  | decided {route : Json} {buckets : RateBuckets} {decision : PolicyResult}
      (hphase : session.phase = .deciding route)
      (hdecision : config.decision route session.request session.hostname buckets = .ok decision)
      (hallowed : decision.allowed = true) :
      Advances config session (.decided buckets)
        { session with phase := .connecting route decision }
  | sent {route : Json} {decision : PolicyResult} (event : ServerEvent) {phase : UpgradePhase}
      {timer : Bool} {ends : Ends} (hphase : session.phase = .connecting route decision)
      (hafter : phase = .running ∨ phase = .finished)
      (hsent : ∀ frame ∈ ends.relay.framed.sent, frame =
        upgradeFrame session.streamId route (session.initial config decision)) :
      Advances config session event { session with phase, timer, ends }

theorem advances_connected {route : Json} {decision : PolicyResult} (event : ServerEvent)
    (hphase : session.phase = .connecting route decision) :
    Advances config session event (session.connected config route decision) := by
  unfold connected
  dsimp only
  cases hsend : ({ session.ends with relay := {} } : Ends).send config.env false
      (upgradeFrame session.streamId route (session.initial config decision)) with
  | error error =>
    have hstill : ({ session.ends with relay := {} } : Ends).Still
        ((({ session.ends with relay := {} } : Ends).writeClient
          (statusLine "502 Bad Gateway")).destroyClient false) :=
      Ends.still_writeClient.trans Ends.still_destroyClient
    apply Advances.sent event hphase (.inr rfl)
    rw [hstill.sent]
    exact nofun
  | ok ends =>
    apply Advances.sent event hphase (.inl rfl)
    intro frame hframe
    rcases Ends.send_cases hsend with ⟨-, rfl⟩ | hstill
    · exact List.mem_singleton.1 hframe
    · have hmem : frame ∈ ends.relay.framed.sent := hframe
      rw [hstill.sent] at hmem
      cases hmem

theorem step_cases (session : UpgradeSession) (event : ServerEvent) :
    session.Quiet (session.step config event) ∨
      Advances config session event (session.step config event) := by
  unfold step
  by_cases hcrashed : session.ends.Crashed
  · rw [if_pos hcrashed]
    exact .inl (.refl session)
  · rw [if_neg hcrashed]
    unfold handle
    split
    · next hphase =>
        unfold routeResolved
        split
        · split_ifs
          · exact .inr (.routed _ _ hphase)
          · exact .inl quiet_refuse
          · exact .inl quiet_refuse
        · exact .inl quiet_refuse
    · next hphase =>
        unfold decided
        split
        · next hdecision =>
            split_ifs with hallowed
            · exact .inr (.decided hphase hdecision hallowed)
            · exact .inl quiet_refuse
        · exact .inl quiet_refuse
    · next hphase => exact .inr (advances_connected _ hphase)
    · exact .inl quiet_refuse
    · next hphase => exact .inl ((continues_handleRunning _).quiet hphase)
    · next hphase => exact .inl ((@continues_onTimeout config False session).quiet hphase)
    · exact .inl quiet_handleAlone
    · exact .inl (.refl session)

/-- The upgrade was allowed in the course of the events. -/
abbrev Allowed (config : Config) (request : Request) (httpVersion : String) (head : List UInt8)
    (streamId : String) (events : List ServerEvent) (route : Json) (decision : PolicyResult) :
    Prop :=
  Permitted config (step config) (fun session => session.ends.relay.framed.sent)
    (arrive config request httpVersion head streamId) events route request decision

/-- The streams opened so far, and what the next one will rest on. -/
structure Permits (config : Config) (request : Request) (httpVersion : String)
    (head : List UInt8) (streamId : String) (events : List ServerEvent)
    (session : UpgradeSession) : Prop where
  sameRequest : session.request = request
  sameVersion : session.httpVersion = httpVersion
  sameHead : session.head = head
  sameId : session.streamId = streamId
  named : session.phase ≠ .finished →
    normalizeHostname config.host (request.headers.get? "host") = some session.hostname
  unsent : session.phase ≠ .running → session.phase ≠ .finished →
    session.ends.relay.framed.sent = []
  connecting : ∀ route decision, session.phase = .connecting route decision →
    Allowed config request httpVersion head streamId events route decision
  opened : ∀ frame ∈ session.ends.relay.framed.sent, hasType frame "stream_open" = true →
    ∃ route decision, Allowed config request httpVersion head streamId events route decision ∧
      frame = upgradeFrame streamId route (requestHead request httpVersion decision.path
        (upgradeHeaders config.host request decision) ++ head)

variable {httpVersion streamId : String} {head : List UInt8}
  {events : List ServerEvent}

theorem permits_arrive (config : Config) (request : Request) (httpVersion : String)
    (head : List UInt8) (streamId : String) :
    Permits config request httpVersion head streamId []
      (arrive config request httpVersion head streamId) := by
  unfold arrive
  split
  · have hstill : ({ relay := .absent } : Ends).Still ((({ relay := .absent } : Ends).writeClient
        (statusLine "404 Not Found")).destroyClient false) :=
      Ends.still_writeClient.trans Ends.still_destroyClient
    refine ⟨rfl, rfl, rfl, rfl, absurd rfl, fun _ h => absurd rfl h, nofun, ?_⟩
    exact forall_of_unsent hstill.sent
  · next hname => exact ⟨rfl, rfl, rfl, rfl, fun _ => hname, fun _ _ => rfl, nofun, nofun⟩

theorem Permits.quiet (h : Permits config request httpVersion head streamId events session)
    (hquiet : session.Quiet next) (event : ServerEvent) :
    Permits config request httpVersion head streamId (events ++ [event]) next := by
  have hlive : next.phase ≠ .finished → next.phase = session.phase :=
    fun hne => hquiet.phase.resolve_right hne
  refine ⟨hquiet.request.trans h.sameRequest, hquiet.httpVersion.trans h.sameVersion,
    hquiet.head.trans h.sameHead, hquiet.streamId.trans h.sameId, ?_, ?_, ?_, ?_⟩
  · intro hne
    rw [hquiet.hostname]
    exact h.named (hlive hne ▸ hne)
  · intro hrunning hne
    have hbefore : session.phase ≠ .running := hlive hne ▸ hrunning
    have hunsent := h.unsent hbefore (hlive hne ▸ hne)
    apply List.eq_nil_iff_forall_not_mem.2
    intro frame hframe
    rcases hquiet.sent frame hframe with hold | ⟨hphase, -⟩
    · rw [hunsent] at hold
      cases hold
    · exact hbefore hphase
  · intro route decision hphase
    have hbefore : session.phase = .connecting route decision :=
      (hlive (hphase.trans_ne nofun)).symm.trans hphase
    exact (h.connecting route decision hbefore).snoc
  · intro frame hframe hopen
    rcases hquiet.sent frame hframe with hold | ⟨-, hother⟩
    · obtain ⟨route, decision, hallowed, hrest⟩ := h.opened frame hold hopen
      exact ⟨route, decision, hallowed.snoc, hrest⟩
    · rw [hopen] at hother
      cases hother

theorem Permits.advances {event : ServerEvent} (hsession : session =
      run (step config) (arrive config request httpVersion head streamId) events)
    (h : Permits config request httpVersion head streamId events session)
    (hadvances : Advances config session event next) :
    Permits config request httpVersion head streamId (events ++ [event]) next := by
  cases hadvances with
  | routed resolved route hphase =>
    have hunsent := h.unsent (hphase.trans_ne nofun) (hphase.trans_ne nofun)
    have hnamed := h.named (hphase.trans_ne nofun)
    exact ⟨h.sameRequest, h.sameVersion, h.sameHead, h.sameId, fun _ => hnamed,
      fun _ _ => hunsent, nofun, forall_of_unsent hunsent⟩
  | @decided route buckets decision hphase hdecision hallowed =>
    have hunsent := h.unsent (hphase.trans_ne nofun) (hphase.trans_ne nofun)
    have hnamed := h.named (hphase.trans_ne nofun)
    rw [h.sameRequest] at hdecision
    have hnow : Allowed config request httpVersion head streamId (events ++ [.decided buckets])
        route decision := permitted_now hnamed (hsession ▸ hunsent) hdecision hallowed
    refine ⟨h.sameRequest, h.sameVersion, h.sameHead, h.sameId, fun _ => hnamed,
      fun _ _ => hunsent, ?_, forall_of_unsent hunsent⟩
    intro _ _ hconnecting
    cases hconnecting
    exact hnow
  | @sent route decision _ phase timer ends hphase hafter hsent =>
    have hnamed := h.named (hphase.trans_ne nofun)
    have hallowed := h.connecting route decision hphase
    refine ⟨h.sameRequest, h.sameVersion, h.sameHead, h.sameId, fun _ => hnamed, ?_, ?_, ?_⟩
    · intro hrunning hfinished
      rcases hafter with hphase | hphase
      · exact absurd hphase hrunning
      · exact absurd hphase hfinished
    · rcases hafter with rfl | rfl <;> exact nofun
    · intro frame hframe _
      have heq := hsent frame hframe
      rw [initial, h.sameRequest, h.sameVersion, h.sameHead, h.sameId,
        decidedPath_of_sound hallowed.sound] at heq
      exact ⟨route, decision, hallowed.snoc, heq⟩

theorem permits_run (config : Config) (request : Request) (httpVersion : String)
    (head : List UInt8) (streamId : String) (events : List ServerEvent) :
    Permits config request httpVersion head streamId events
      (run (step config) (arrive config request httpVersion head streamId) events) := by
  apply run_history (permits_arrive config request httpVersion head streamId)
  intro events event h
  rcases step_cases (run (step config)
    (arrive config request httpVersion head streamId) events) event with hquiet | hadvances
  · exact h.quiet hquiet event
  · exact h.advances rfl hadvances

end UpgradeSession

/-! ## Both handlers -/

def allowAllRoute : Json :=
  .obj [("tunnel", .obj [("id", .str "t1")]), ("target", .obj [("id", .str "g1")]),
    ("policy", .obj [("id", .str "p1"), ("document", .obj [("rules", .arr [])])])]

def hostedRequest : Request := ⟨"GET", "/a", by decide, [("host", .one "app.test")], none, 0⟩

def requestEvents : List ServerEvent :=
  [.routeResolved (some allowAllRoute), .decided OrdMap.empty, .bodyRead (.ok []),
    .socket .relayConnected]

def upgradeEvents : List ServerEvent :=
  [.routeResolved (some allowAllRoute), .decided OrdMap.empty, .socket .relayConnected]

def forwardedRequest : RequestSession :=
  run (RequestSession.step plainConfig) (RequestSession.arrive plainConfig hostedRequest "r1" "f1")
    requestEvents

def forwardedUpgrade : UpgradeSession :=
  run (UpgradeSession.step plainConfig)
    (UpgradeSession.arrive plainConfig hostedRequest "1.1" [] "s1") upgradeEvents

theorem carriesPolicy_allowAllRoute : CarriesPolicy plainConfig allowAllRoute := by
  unfold CarriesPolicy
  rw [@policyArgument_of_document _ allowAllRoute _ _ rfl rfl]
  exact nofun

end Tunnara.Edge
